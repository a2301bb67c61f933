import EmbeddingLatency.Grouping
import EmbeddingLatency.Results

/-!
# What a report is made from

The rows of a run and their groups, derived once, together with the context of the run. All reports
are functions of a data set, so they agree on rows, groups and order.
-/

set_option autoImplicit false

namespace EmbeddingLatency.Report

/-- The rows and groups of a run. -/
structure Dataset where
  context : RunContext
  rows : List (Comparison Float)
  byQuery : List (Group QuerySize Float)
  bySize : List (Group String Float)
  deriving Repr

namespace Dataset

/-- The data set of some rows. -/
def ofRows (context : RunContext) (rows : List (Comparison Float)) : Dataset :=
  ⟨context, rows, groupsByQuery rows, groupsBySize rows⟩

/-- The data set of a run. -/
def ofResults (results : Results) : Dataset :=
  ofRows results.context (Comparison.ofAll results.timings)

/-- One row for each model: the first one. -/
def models (d : Dataset) : List (Comparison Float) := distinctBy (·.key.modelId) d.rows

end Dataset

end EmbeddingLatency.Report
