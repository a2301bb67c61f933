import EmbeddingLatency.Bench.Backend
import EmbeddingLatency.Log
import EmbeddingLatency.Onnx.Embedder

/-!
# The backend for graphs

Models are loaded from the files that a store has of them. A run of a graph is over when it answers,
so there is never anything to wait for. A registry may know how many parameters a model has.
-/

set_option autoImplicit false

namespace EmbeddingLatency.Onnx

open EmbeddingLatency.Bench (Backend)

/-- Where models come from. -/
structure ModelSource (m : Type → Type) (G : Type) where
  /-- The files of a model. -/
  files : String → m (ModelBundle G)
  /-- What the registry answers about a model, if it is to be asked. -/
  registry : Option (String → m (Option String))

/-- The part of the program that the events of this backend come from. -/
def backendTarget : String := "embed_bench::backend::onnx"

/-- The backend for graphs; models run on the CPU alone. -/
def backend {m : Type → Type} {G : Type} [Monad m] (runtime : GraphRuntime G)
    (source : ModelSource m G) (log : LogEvent → m Unit) : Backend m (Embedder G) where
  accelerator := false
  load entry device := do
    log ⟨.info, backendTarget, "loading " ++ entry.modelId ++ " on " ++ device.name⟩
    return Embedder.load entry device (← source.files entry.modelId)
  describe entry embedder := do
    match source.registry with
    | none => return embedder.info entry
    | some ask =>
      return { embedder.info entry with
        numParameters := (← ask entry.modelId).bind parameterCount? }
  embed embedder text := pure (embedder.embed runtime text)
  embedAll embedder texts := pure (embedder.embedAll runtime texts)
  barrier embedder := pure (.ok (), embedder)
  release embedder :=
    log ⟨.debug, backendTarget,
      "releasing " ++ embedder.entry.modelId ++ " on " ++ embedder.device.name⟩

end EmbeddingLatency.Onnx
