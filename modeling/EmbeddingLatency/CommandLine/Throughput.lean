import EmbeddingLatency.CommandLine.Values
import EmbeddingLatency.Device

/-!
# The command line of the throughput measurement

A model and a number of texts, and how many of them make a batch: all of them if nothing is said.
The accelerator is used unless another device is named.
-/

set_option autoImplicit false

namespace EmbeddingLatency.CommandLine

/-- What the command line asks for. -/
structure ThroughputRequest where
  model : String
  numTexts : Nat
  batchSize : Option Nat
  device : Device
  deriving DecidableEq, Repr

namespace ThroughputRequest

/-- What is asked for without any argument. -/
def empty : ThroughputRequest := ⟨"", 0, none, .cuda⟩

/-- What may stand on the command line. -/
def grammar : Grammar ThroughputRequest where
  switches :=
    ⟨"device", none, false,
      .takes (choiceValue Device.names fun v r => { r with device := v })⟩ :: commonSwitches
  operands :=
    [⟨"model", true, textValue fun v r => { r with model := v }⟩,
     ⟨"num_texts", true, countValue fun v r => { r with numTexts := v }⟩,
     ⟨"batch_size", false, countValue fun v r => { r with batchSize := some v }⟩]

/-- Reads a command line. -/
def parse (args : List String) : Except UsageFault ThroughputRequest := grammar.parse empty args

/-- The number of texts in a batch. -/
def effectiveBatchSize (r : ThroughputRequest) : Nat := r.batchSize.getD (max r.numTexts 1)

end ThroughputRequest

end EmbeddingLatency.CommandLine
