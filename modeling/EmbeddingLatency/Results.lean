import EmbeddingLatency.Host.Hardware
import EmbeddingLatency.Settings.Basic
import EmbeddingLatency.Timestamp
import EmbeddingLatency.Series

/-!
# The results of a run

A run collects latency series one after the other. Beside them stands the context that reports show:
what was asked for, on which machine, when it began and how long it took. Rows and groups are never
kept; they are derived from the results.
-/

set_option autoImplicit false

namespace EmbeddingLatency

/-- Everything that a report says about a run besides its timings. -/
structure RunContext where
  plan : Plan
  /-- Has the run had an accelerator at hand? -/
  gpuAvailable : Bool
  hardware : Hardware
  startedAt : Timestamp
  /-- How long the run took, in seconds. -/
  totalRuntime : Float
  deriving Repr

/-- A run with the series that it has collected, in the order in which they came. -/
structure Results where
  context : RunContext
  timings : List LatencySeries
  deriving Repr

namespace Results

/-- A run that has not collected anything. -/
def begin (context : RunContext) : Results := ⟨context, []⟩

/-- The run with one more series. -/
def add (r : Results) (timing : LatencySeries) : Results :=
  { r with timings := r.timings ++ [timing] }

/-- The run with some more series. -/
def extend (r : Results) (timings : List LatencySeries) : Results :=
  { r with timings := r.timings ++ timings }

/-- The number of series. -/
def size (r : Results) : Nat := r.timings.length

/-- Has nothing been collected yet? -/
def isEmpty (r : Results) : Bool := r.timings.isEmpty

@[simp] theorem timings_add (r : Results) (timing : LatencySeries) :
    (r.add timing).timings = r.timings ++ [timing] := rfl

@[simp] theorem timings_extend (r : Results) (timings : List LatencySeries) :
    (r.extend timings).timings = r.timings ++ timings := rfl

end Results

end EmbeddingLatency
