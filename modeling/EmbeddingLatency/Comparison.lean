import EmbeddingLatency.Distinct
import EmbeddingLatency.Series

/-!
# Comparison rows

A row stands for one model, size label and query size that has been timed on the CPU. It holds the
figures of the last CPU result with this identity, and those of the last accelerator result if there
is one. Rows are sorted by the place of their size label, then of their query size; labels and
model names decide what is left.
-/

set_option autoImplicit false

namespace EmbeddingLatency

/-- One identity with its figures on both devices. -/
structure Comparison (α : Type) where
  key : ComparisonKey
  cpu : LatencySummary α
  gpu : Option (LatencySummary α)
  embeddingDim : Option Nat
  numParameters : Option Nat
  maxSeqLength : Option Nat
  modelType : Option String
  cpuLoadTime : Option α
  gpuLoadTime : Option α
  deriving Repr

/-- How many times as long the CPU takes, on the means; undefined without a positive mean of the
    accelerator. -/
def speedup {α : Type} [Div α] [Scalar α] (cpuMean : α) (gpuMean : Option α) : Option α :=
  match gpuMean with
  | some g => if Scalar.isPositive g then some (cpuMean / g) else none
  | none => none

namespace ComparisonKey

/-- The order of the rows. -/
def le (a b : ComparisonKey) : Bool :=
  if sizePlace a.sizeLabel ≠ sizePlace b.sizeLabel then
    sizePlace a.sizeLabel < sizePlace b.sizeLabel
  else if a.query.rank ≠ b.query.rank then a.query.rank < b.query.rank
  else if a.sizeLabel ≠ b.sizeLabel then a.sizeLabel < b.sizeLabel
  else a.modelId ≤ b.modelId

end ComparisonKey

namespace Comparison

section

variable {α : Type}

/-- The mean on the accelerator. -/
def gpuMean (row : Comparison α) : Option α := row.gpu.map (·.mean)

/-- How many times as long the CPU takes. -/
def speedup [Div α] [Scalar α] (row : Comparison α) : Option α :=
  EmbeddingLatency.speedup row.cpu.mean row.gpuMean

/-- The parameter count as it is shown. -/
def paramsText (row : Comparison α) : Option String :=
  row.numParameters.map EmbeddingLatency.paramsText

end

/-- The last result on a device with a given identity. -/
def lastResult? (results : List LatencySeries) (device : Device) (key : ComparisonKey) :
    Option LatencySeries :=
  results.reverse.find? fun r => r.device = device && r.key = key

/-- The row of a CPU result and its counterpart on the accelerator. -/
def ofResults (cpu : LatencySeries) (gpu : Option LatencySeries) : Comparison Float where
  key := cpu.key
  cpu := cpu.summary
  gpu := gpu.map (·.summary)
  embeddingDim := cpu.info.bind (·.embeddingDim)
  numParameters := cpu.info.bind (·.numParameters)
  maxSeqLength := cpu.info.bind (·.maxSeqLength)
  modelType := cpu.info.bind (·.modelType)
  cpuLoadTime := cpu.loadTime
  gpuLoadTime := gpu.bind (·.loadTime)

/-- The row of an identity that has been timed on the CPU. -/
def ofKey? (results : List LatencySeries) (key : ComparisonKey) : Option (Comparison Float) :=
  (lastResult? results .cpu key).map fun cpu => ofResults cpu (lastResult? results .cuda key)

/-- The identities among some results, each once. -/
def keys (results : List LatencySeries) : List ComparisonKey := distinct (results.map (·.key))

/-- The rows of a list of results. -/
def ofAll (results : List LatencySeries) : List (Comparison Float) :=
  ((keys results).filterMap (ofKey? results)).mergeSort fun a b => a.key.le b.key

end Comparison

end EmbeddingLatency
