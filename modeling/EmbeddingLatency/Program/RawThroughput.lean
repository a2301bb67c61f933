import EmbeddingLatency.CommandLine.Throughput
import EmbeddingLatency.Program.Host
import EmbeddingLatency.Text.Layout
import EmbeddingLatency.Throughput.Basic

/-!
# The throughput measurement as a program

One model is loaded and given a corpus of short documents. The model is released whether the
measurement succeeds or not.
-/

set_option autoImplicit false

namespace EmbeddingLatency.Program

open EmbeddingLatency.CommandLine (ThroughputRequest)
open EmbeddingLatency.Decimal (digits fixed)

/-- The line between the parts of the output. -/
def partRule : String := Text.rule '=' 60

/-- What is printed in front of the measurement. -/
def openingLines (r : ThroughputRequest) : List String :=
  [partRule,
   "Model:   " ++ r.model,
   "Testing: " ++ digits r.numTexts ++ " texts in batches of " ++ digits r.effectiveBatchSize,
   partRule]

/-- What is printed after the measurement. -/
def closingLines (r : ThroughputOutcome) : List String :=
  ["",
   "Duration:    " ++ fixed 2 r.duration.seconds ++ "s",
   "Throughput:  " ++ fixed 0 r.perSecond ++ " emb/sec",
   "Output:      (" ++ digits r.shape.1 ++ ", " ++ digits r.shape.2 ++ ")",
   "",
   partRule,
   "RESULT: " ++ fixed 0 r.perSecond ++ " embeddings/second",
   partRule]

section

variable {m : Type → Type} {G : Type} [Monad m] (host : Host m G)

/-- Prints some lines. -/
def printLines (lines : List String) : m Unit := lines.forM host.line

/-- Measures what a command line asks for, up to the first fault. -/
def measureModel (request : ThroughputRequest) : m (Except Fault Unit) := do
  let backend := host.backend false
  match ← backend.load ⟨"custom", request.model, .dense⟩ request.device with
  | .error fault => return .error fault
  | .ok handle =>
    host.log
      ⟨.info, "raw_throughput", request.model ++ " loaded on " ++ request.device.name⟩
    printLines host (openingLines request)
    let (outcome, handle) ←
      Throughput.measure backend host.observer (testDocuments request.numTexts)
        request.effectiveBatchSize handle
    match outcome with
    | .error fault =>
      backend.release handle
      return .error fault
    | .ok report =>
      printLines host (closingLines report)
      backend.release handle
      return .ok ()

/-- The throughput measurement: its exit code. -/
def rawThroughput (args : List String) : m Nat := do
  match ThroughputRequest.parse args with
  | .error fault =>
    host.usage "raw-throughput" "[OPTIONS] <MODEL> <NUM_TEXTS> [BATCH_SIZE]" fault
  | .ok request =>
    match ← measureModel host request with
    | .ok () => return 0
    | .error fault => host.fails fault

end

end EmbeddingLatency.Program
