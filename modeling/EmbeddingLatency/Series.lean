import EmbeddingLatency.Device
import EmbeddingLatency.Model.Facts
import EmbeddingLatency.Query
import EmbeddingLatency.Statistics

/-!
# Latency series

The latencies of one model, query size and device, in the order in which they were measured.
Every figure is computed from them when it is asked for.
-/

set_option autoImplicit false

namespace EmbeddingLatency

/-- The latencies of one query on one device, in milliseconds. -/
structure LatencySeries where
  modelId : String
  sizeLabel : String
  query : QuerySize
  device : Device
  samples : List Float
  /-- What is known of the model. -/
  info : Option ModelFacts
  /-- How long it took to load the model, in milliseconds. -/
  loadTime : Option Float
  deriving Repr

/-- What identifies a comparison: model, size label and query size. -/
structure ComparisonKey where
  modelId : String
  sizeLabel : String
  query : QuerySize
  deriving DecidableEq, Repr

namespace LatencySeries

/-- A result without samples. -/
def empty (modelId sizeLabel : String) (query : QuerySize) (device : Device) : LatencySeries :=
  ⟨modelId, sizeLabel, query, device, [], none, none⟩

/-- The result with one more sample. -/
def push (r : LatencySeries) (sample : Float) : LatencySeries :=
  { r with samples := r.samples ++ [sample] }

/-- The comparison that a result belongs to. -/
def key (r : LatencySeries) : ComparisonKey := ⟨r.modelId, r.sizeLabel, r.query⟩

/-- The figures of a result. -/
def summary (r : LatencySeries) : LatencySummary Float := .ofSamples r.samples

end LatencySeries

end EmbeddingLatency
