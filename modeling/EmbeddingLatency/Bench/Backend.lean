import EmbeddingLatency.Device
import EmbeddingLatency.Fault
import EmbeddingLatency.Model.Facts

/-!
# Backends

A backend loads catalog entries onto devices. What it hands out for a loaded model is a handle,
which the caller owns: every use of a handle answers the handle to go on with, and the caller
releases the last one exactly once. How a backend works, and in which monad, is left open.
-/

set_option autoImplicit false

namespace EmbeddingLatency

/-- The vector of a text. -/
abbrev Embedding := List Float32

namespace Bench

/-- What can be asked of models: `H` is the type of handles, and `m` says what a request may do
    besides answering. -/
structure Backend (m : Type → Type) (H : Type) where
  /-- Is there an accelerator to run on? -/
  accelerator : Bool
  /-- Loads a model onto a device. -/
  load : ListedModel → Device → m (Except Fault H)
  /-- What is known of a loaded model. -/
  describe : ListedModel → H → m ModelFacts
  /-- Embeds one text. -/
  embed : H → String → m (Except Fault Embedding × H)
  /-- Embeds several texts at once. -/
  embedAll : H → List String → m (Except Fault (List Embedding) × H)
  /-- Waits until all work on the device is done. -/
  barrier : H → m (Except Fault Unit × H)
  /-- Gives a model up. -/
  release : H → m Unit

/-- Embeds texts one after the other, up to the first failure. -/
def oneByOne {m : Type → Type} {H : Type} [Monad m]
    (embed : H → String → m (Except Fault Embedding × H)) :
    H → List String → m (Except Fault (List Embedding) × H)
  | handle, [] => pure (.ok [], handle)
  | handle, text :: rest => do
    match ← embed handle text with
    | (.error fault, handle) => pure (.error fault, handle)
    | (.ok vector, handle) =>
      match ← oneByOne embed handle rest with
      | (.error fault, handle) => pure (.error fault, handle)
      | (.ok vectors, handle) => pure (.ok (vector :: vectors), handle)

/-- A backend that embeds several texts by embedding each of them. -/
def Backend.withoutBatches {m : Type → Type} {H : Type} [Monad m] (backend : Backend m H) :
    Backend m H := { backend with embedAll := oneByOne backend.embed }

end Bench

end EmbeddingLatency
