import EmbeddingLatency.Report.Cells
import EmbeddingLatency.Report.Dataset
import EmbeddingLatency.Text.Layout

/-!
# The Markdown report

A narrative report: the machine, the settings, the models, all rows and both kinds of groups. The
columns of the accelerator are there if the run had one at hand, whether it was measured or not.
-/

set_option autoImplicit false

namespace EmbeddingLatency.Report

open EmbeddingLatency.Decimal (digits)
open EmbeddingLatency.Text (rule)

/-- One line of a pipe table. -/
def pipeLine (cells : List String) : String := "| " ++ String.intercalate " | " cells ++ " |\n"

/-- The line below the headers: dashes as wide as a header with its two spaces. -/
def pipeRule (headers : List String) : String :=
  "|" ++ String.intercalate "|" (headers.map fun h => rule '-' (h.utf8ByteSize + 2)) ++ "|\n"

/-- A pipe table. -/
def pipeTable (headers : List String) (rows : List (List String)) : String :=
  pipeLine headers ++ pipeRule headers ++ String.join (rows.map pipeLine)

/-- One item of a list. -/
def fact (name value : String) : String := "- **" ++ name ++ ":** " ++ value ++ "\n"

/-- What is known of the machine. -/
def hardwareFacts (h : Hardware) : String :=
  fact "CPU" (orQuestionMark h.cpuModel) ++
  fact "CPU Cores/Threads" (countOrUnknown h.cpuCores ++ "/" ++ countOrUnknown h.cpuThreads) ++
  fact "RAM" (orQuestionMark (h.ramGb.map gigabytes)) ++
  (match h.gpuModel with
    | none => ""
    | some gpu =>
      fact "GPU" gpu ++
      fact "GPU Memory" (orQuestionMark (h.gpuMemoryGb.map gigabytes)) ++
      fact "GPU Driver" (orQuestionMark h.gpuDriverVersion) ++
      fact "CUDA" (orQuestionMark h.cudaVersion)) ++
  fact "Runtime" (orQuestionMark h.runtimeVersion)

/-- What was asked for. -/
def configFacts (c : RunContext) : String :=
  fact "Mode" c.plan.mode.name ++
  fact "Iterations" (digits c.plan.iterations) ++
  fact "Warmup" (digits c.plan.warmup) ++
  fact "GPU Available" (if c.gpuAvailable then "Yes" else "No") ++
  (if c.plan.dryRun then fact "Dry Run" "Yes (no timing data)" else "")

/-- The table of the models. -/
def modelsTable (d : Dataset) : String :=
  pipeTable ["Model", "Size", "Params", "Dim", "Max Seq", "Load Time", "Type"]
    (d.models.map modelCells)

/-- The cells of a row: its model, its query size and its figures. -/
def comparisonCells (withGpu : Bool) (row : Comparison Float) : List String :=
  [bareName row.key.modelId, row.key.sizeLabel, orQuestionMark row.paramsText,
   countOrUnknown row.embeddingDim, row.key.query.label] ++ rowCells withGpu row

/-- The table of all rows. -/
def comparisonTable (d : Dataset) : String :=
  pipeTable
    (["Model", "Size", "Params", "Dim", "Query"] ++ timingHeaders d.context.gpuAvailable "Speedup")
    (d.rows.map (comparisonCells d.context.gpuAvailable))

/-- A table of groups. -/
def groupsTable {κ : Type} (d : Dataset) (header : String) (labelText : κ → String)
    (groups : List (Group κ Float)) : String :=
  pipeTable (header :: timingHeaders d.context.gpuAvailable "Avg Speedup")
    (groups.map fun g => summaryCells d.context.gpuAvailable (labelText g.label) g.summary)

/-- The Markdown report. -/
def markdown (d : Dataset) : String :=
  "# Embedding Benchmark Results\n\n" ++
  "**Run Date:** " ++ d.context.startedAt.readable ++ "  \n" ++
  "**Total Runtime:** " ++ runtimeText d.context.totalRuntime ++ "\n\n" ++
  "## Hardware\n\n" ++ hardwareFacts d.context.hardware ++
  "\n## Configuration\n\n" ++ configFacts d.context ++
  "\n## Models\n\n" ++ modelsTable d ++
  "\n## CPU vs GPU Comparison - all times in ms (per model + query)\n\n" ++ comparisonTable d ++
  "\n## Aggregated by Query Size - all times in ms (avg across all models)\n\n" ++
    groupsTable d "Query Size" (·.label) d.byQuery ++
  "\n## Aggregated by Model Size - all times in ms (avg across all query lengths)\n\n" ++
    groupsTable d "Model Size" id d.bySize

end EmbeddingLatency.Report
