import EmbeddingLatency.Files.Basic
import EmbeddingLatency.Onnx.Embedder
import EmbeddingLatency.Settings.Directories

/-!
# Cached model files

A cache has a directory for each model. A reference in it names the revision of the model, and the
files of a revision lie in a snapshot directory of their own. A file that is not in the cache is not
there at all: nothing is fetched.
-/

set_option autoImplicit false

namespace EmbeddingLatency.Onnx

/-- A place where model files are kept. -/
structure ModelCache where
  directory : String

/-- How the files of a model are understood. -/
structure ModelReader (G : Type) where
  /-- Opens a graph, or says why it cannot be opened. -/
  graph : String → Except String G
  /-- Reads a tokenizer. -/
  tokenizer : String → Option Tokenizer
  /-- What is said of a graph file that is not text. -/
  unreadable : String

namespace ModelCache

/-- The name of a model's directory: two dashes stand for each slash of the model's name. -/
def directoryName (modelId : String) : String :=
  "models--" ++ String.ofList (modelId.toList.flatMap fun c => if c = '/' then ['-', '-'] else [c])

example : directoryName "org/model" = "models--org--model" := by decide

/-- The directory of a model. -/
def modelDirectory (cache : ModelCache) (modelId : String) : String :=
  joinPath cache.directory (directoryName modelId)

/-- The file that names the revision of a model. -/
def referencePath (cache : ModelCache) (modelId : String) : String :=
  joinPath (joinPath (cache.modelDirectory modelId) "refs") "main"

/-- The path of a file in a revision. -/
def snapshotPath (cache : ModelCache) (modelId revision file : String) : String :=
  joinPath (joinPath (joinPath (cache.modelDirectory modelId) "snapshots") revision) file

section

variable {m : Type → Type} [Monad m] (read : String → m (Except FileFault String))

/-- A file that is there, even if it is no text. -/
def present? (path : String) : m (Option (Except FileFault String)) := do
  match ← read path with
  | .error .notText => return some (.error .notText)
  | .error _ => return none
  | .ok text => return some (.ok text)

/-- The files of a model. -/
def files {G : Type} (cache : ModelCache) (reader : ModelReader G) (modelId : String) :
    m (ModelBundle G) := do
  match ← read (cache.referencePath modelId) with
  | .error _ => return .missing
  | .ok revision =>
    let file (name : String) := present? read (cache.snapshotPath modelId revision name)
    let opened (found : Except FileFault String) : Except String G :=
      match found with
      | .ok text => reader.graph text
      | .error _ => .error reader.unreadable
    return {
      graph := (← file "onnx/model.onnx").map opened
      rootGraph := (← file "model.onnx").map opened
      tokenizer := (← file tokenizerPath).map fun found => found.toOption.bind reader.tokenizer
      config := (← file configPath).bind (·.toOption)
      sentence := (← file sentencePath).bind (·.toOption) }

end

end ModelCache

end EmbeddingLatency.Onnx
