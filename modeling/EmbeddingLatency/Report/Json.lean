import EmbeddingLatency.Decimal.Rounding
import EmbeddingLatency.Json.Writer
import EmbeddingLatency.Report.Dataset

/-!
# The JSON report

One document with the context of the run, its rows and both kinds of groups. Values that are not
known are `null`. Measured times are written in full; the duration of the run and the amounts of
memory are rounded to one decimal place.
-/

set_option autoImplicit false

namespace EmbeddingLatency.Report

open EmbeddingLatency (Json.Value)
open EmbeddingLatency.Json

/-- A figure rounded to tenths. -/
def tenths (x : Float) : Float := Decimal.roundHalfAway (x * 10.0) / 10.0

/-- The settings of a run as a JSON object. -/
def configJson (c : RunContext) : Value :=
  .object
    [("iterations", .nat c.plan.iterations), ("warmup", .nat c.plan.warmup),
     ("gpu_available", .bool c.gpuAvailable), ("mode", .text c.plan.mode.name),
     ("dry_run", .bool c.plan.dryRun)]

/-- A row as a JSON object. -/
def rowJson (row : Comparison Float) : Value :=
  .object
    [("model", .text row.key.modelId),
     ("size", .text row.key.sizeLabel),
     ("params", .ofOption .nat row.numParameters),
     ("params_str", .ofOption .text row.paramsText),
     ("embedding_dim", .ofOption .nat row.embeddingDim),
     ("max_seq_length", .ofOption .nat row.maxSeqLength),
     ("model_type", .ofOption .text row.modelType),
     ("cpu_load_time_ms", .ofOption .real row.cpuLoadTime),
     ("gpu_load_time_ms", .ofOption .real row.gpuLoadTime),
     ("query_length", .text row.key.query.label),
     ("cpu_mean_ms", .real row.cpu.mean),
     ("cpu_p50_ms", .real row.cpu.p50),
     ("cpu_p95_ms", .real row.cpu.p95),
     ("cpu_p99_ms", .real row.cpu.p99),
     ("gpu_mean_ms", .ofOption .real (row.gpu.map (·.mean))),
     ("gpu_p50_ms", .ofOption .real (row.gpu.map (·.p50))),
     ("gpu_p95_ms", .ofOption .real (row.gpu.map (·.p95))),
     ("gpu_p99_ms", .ofOption .real (row.gpu.map (·.p99))),
     ("speedup", .ofOption .real row.speedup)]

/-- The figures of a group as the members of a JSON object. -/
def groupMembers (s : GroupSummary Float) : List (String × Value) :=
  [("cpu_mean_ms", .real s.cpu.mean),
   ("cpu_p50_ms", .real s.cpu.p50),
   ("cpu_p95_ms", .real s.cpu.p95),
   ("gpu_mean_ms", .ofOption .real (s.gpu.map (·.mean))),
   ("gpu_p50_ms", .ofOption .real (s.gpu.map (·.p50))),
   ("gpu_p95_ms", .ofOption .real (s.gpu.map (·.p95))),
   ("avg_speedup", .ofOption .real s.speedup)]

/-- The report as a JSON document. -/
def document (d : Dataset) : Value :=
  .object
    [("run_timestamp", .text d.context.startedAt.rfc3339),
     ("total_runtime_seconds", .real (tenths d.context.totalRuntime)),
     ("hardware", d.context.hardware.toJson tenths),
     ("config", configJson d.context),
     ("comparison", .array (d.rows.map rowJson)),
     ("aggregations_by_query_size",
       .array (d.byQuery.map fun g =>
         .object (("query_length", .text g.label.label) :: groupMembers g.summary))),
     ("aggregations_by_model_size",
       .array (d.bySize.map fun g =>
         .object (("model_size", .text g.label) :: groupMembers g.summary)))]

/-- The JSON report. -/
def json (d : Dataset) : String := (document d).pretty

end EmbeddingLatency.Report
