import EmbeddingLatency.Onnx.Batch

/-!
# Graphs

A graph is run on named inputs of one shape and answers its first output. A running graph may change
with every run, so a run answers the graph to go on with. `Recorded` keeps what a graph has been
fed.
-/

set_option autoImplicit false

namespace EmbeddingLatency.Onnx

/-- The inputs of a run, sorted by name, all with the same rows and columns. -/
structure Feed where
  rows : Nat
  columns : Nat
  inputs : List (String × List Int)
  deriving DecidableEq, Repr

namespace Feed

/-- The numbers of an input. -/
def input? (f : Feed) (name : String) : Option (List Int) :=
  (f.inputs.find? (·.1 = name)).map (·.2)

/-- The feed of a batch; some graphs have no use for token types. -/
def ofBatch (batch : TokenBatch) (tokenTypes : Bool) : Feed where
  rows := batch.batchSize
  columns := batch.seqLen
  inputs :=
    [("attention_mask", batch.mask), ("input_ids", batch.ids)] ++
      if tokenTypes then [("token_type_ids", batch.typeIds)] else []

end Feed

/-- The first output of a run. -/
inductive GraphOutput where
  /-- Single-precision numbers with the lengths of their axes. -/
  | reals (dims : List Int) (flat : List Float32)
  /-- Whole numbers, which are not asked for. -/
  | integers
  deriving Repr

/-- How graphs of a type are run; a run that fails says why. -/
structure GraphRuntime (G : Type) where
  run : G → Feed → Except String GraphOutput × G

/-- A graph with all that it has been fed, the latest first. -/
structure Recorded (G : Type) where
  graph : G
  fed : List Feed

/-- Runs graphs and keeps what they are fed. -/
def GraphRuntime.recorded {G : Type} (runtime : GraphRuntime G) : GraphRuntime (Recorded G) where
  run r feed :=
    let (output, graph) := runtime.run r.graph feed
    (output, ⟨graph, feed :: r.fed⟩)

end EmbeddingLatency.Onnx
