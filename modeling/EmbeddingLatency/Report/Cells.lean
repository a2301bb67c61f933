import EmbeddingLatency.Decimal.Numeral
import EmbeddingLatency.Decimal.Rounding
import EmbeddingLatency.Grouping
import EmbeddingLatency.Text.Blank

/-!
# The cells of a table

How single values are shown to a human reader. Latencies have two decimal places and ratios one. A
value that is not known is shown as a question mark, and a measurement that was not made as `N/A`.
The unit of a duration is chosen by its exact value, before it is rounded for display.
-/

set_option autoImplicit false

namespace EmbeddingLatency.Report

open EmbeddingLatency.Decimal (digits fixed)

/-- The name of a model without its owner. -/
def bareName (modelId : String) : String :=
  String.ofList ((Text.splitBy (· = '/') modelId.toList).getLast?.getD [])

/-- A load time given in milliseconds: in seconds from one second on. -/
def loadTimeText : Option Float → String
  | none => "?"
  | some ms => if 1000.0 ≤ ms then fixed 1 (ms / 1000.0) ++ "s" else fixed 0 ms ++ "ms"

/-- A duration given in seconds: whole minutes, where there are any, and seconds. -/
def runtimeText (seconds : Float) : String :=
  let minutes := Decimal.floor (seconds / 60.0)
  let rest := fixed 1 (seconds - minutes * 60.0) ++ "s"
  if 0.0 < minutes then fixed 0 minutes ++ "m " ++ rest else rest

/-- A text, or a question mark where it is not known. -/
def orQuestionMark (text : Option String) : String := text.getD "?"

/-- A number, or a question mark where it is not known. -/
def countOrUnknown (n : Option Nat) : String := orQuestionMark (n.map digits)

/-- A latency in milliseconds. -/
def msText (ms : Float) : String := fixed 2 ms

/-- A latency in milliseconds that may not have been measured. -/
def msOrMissing (ms : Option Float) : String := (ms.map msText).getD "N/A"

/-- A ratio that may not be defined. -/
def speedupOrMissing (ratio : Option Float) : String :=
  (ratio.map fun r => fixed 1 r ++ "x").getD "N/A"

/-- An amount of memory in gigabytes. -/
def gigabytes (amount : Float) : String := fixed 1 amount ++ " GB"

/-- The text without the letters of a unit at its end. -/
def withoutUnit (cell : List Char) : List Char :=
  (cell.reverse.dropWhile fun c => c = 'x' || c = 's' || c = 'm').reverse

/-- Does the cell hold a number, with or without a unit? -/
def readsAsNumber (cell : String) : Bool :=
  (Decimal.float? (withoutUnit cell.toList)).isSome

/-- The figures that tables show of some latencies. -/
def figures (s : LatencySummary Float) : GroupFigures Float := ⟨s.mean, s.p50, s.p95⟩

/-- The cells of the figures on both devices; those of the accelerator only if `withGpu` holds. -/
def timingCells (withGpu : Bool) (cpu : GroupFigures Float) (gpu : Option (GroupFigures Float))
    (speedup : Option Float) : List String :=
  [msText cpu.mean, msText cpu.p50, msText cpu.p95] ++
    if withGpu then
      [msOrMissing (gpu.map (·.mean)), msOrMissing (gpu.map (·.p50)),
       msOrMissing (gpu.map (·.p95)), speedupOrMissing speedup]
    else []

/-- The headers of the figures on both devices; the last one may be worded differently. -/
def timingHeaders (withGpu : Bool) (speedup : String) : List String :=
  ["CPU Mean", "CPU P50", "CPU P95"] ++
    if withGpu then ["GPU Mean", "GPU P50", "GPU P95", speedup] else []

theorem length_timingCells (withGpu : Bool) (cpu : GroupFigures Float)
    (gpu : Option (GroupFigures Float)) (ratio : Option Float) (header : String) :
    (timingCells withGpu cpu gpu ratio).length = (timingHeaders withGpu header).length := by
  cases withGpu <;> rfl

/-- The figures of a row. -/
def rowCells (withGpu : Bool) (row : Comparison Float) : List String :=
  timingCells withGpu (figures row.cpu) (row.gpu.map figures) row.speedup

/-- A group's label and its figures. -/
def summaryCells (withGpu : Bool) (label : String) (s : GroupSummary Float) : List String :=
  label :: timingCells withGpu s.cpu s.gpu s.speedup

/-- What is known of the model of a row. -/
def modelCells (row : Comparison Float) : List String :=
  [bareName row.key.modelId, row.key.sizeLabel, orQuestionMark row.paramsText,
   countOrUnknown row.embeddingDim, countOrUnknown row.maxSeqLength,
   loadTimeText row.cpuLoadTime, orQuestionMark row.modelType]

end EmbeddingLatency.Report
