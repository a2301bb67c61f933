import EmbeddingLatency.Comparison

/-!
# Groups of rows

Rows are summarized for each query size and for each size label. A group's figures are the means
of its rows' figures; its accelerator figures cover only the rows that have any. The speedup of a
group is that of its means.
-/

set_option autoImplicit false

namespace EmbeddingLatency

variable {α : Type} [Add α] [Div α] [Scalar α]

/-- The figures that a group is summarized by. -/
structure GroupFigures (α : Type) where
  mean : α
  p50 : α
  p95 : α
  deriving Repr

/-- The means of the figures of some rows. -/
def GroupFigures.ofSummaries (summaries : List (LatencySummary α)) : GroupFigures α where
  mean := Samples.mean (summaries.map (·.mean))
  p50 := Samples.mean (summaries.map (·.p50))
  p95 := Samples.mean (summaries.map (·.p95))

/-- The summary of a group. -/
structure GroupSummary (α : Type) where
  cpu : GroupFigures α
  gpu : Option (GroupFigures α)
  deriving Repr

namespace GroupSummary

/-- The summary of some rows. -/
def ofRows (rows : List (Comparison α)) : GroupSummary α where
  cpu := .ofSummaries (rows.map (·.cpu))
  gpu :=
    match rows.filterMap (·.gpu) with
    | [] => none
    | summaries => some (.ofSummaries summaries)

/-- How many times as long the CPU takes on average. -/
def speedup (s : GroupSummary α) : Option α :=
  EmbeddingLatency.speedup s.cpu.mean (s.gpu.map (·.mean))

end GroupSummary

/-- A group: what its rows have in common, and their summary. -/
structure Group (κ α : Type) where
  label : κ
  summary : GroupSummary α
  deriving Repr

/-- The groups of some labels, those without rows left out. -/
def groupsOf {κ : Type} [DecidableEq κ] (labels : List κ) (labelOf : Comparison α → κ)
    (rows : List (Comparison α)) : List (Group κ α) :=
  labels.filterMap fun label =>
    match rows.filter fun row => labelOf row = label with
    | [] => none
    | members => some ⟨label, .ofRows members⟩

/-- The groups of the query sizes that occur, from short to long. -/
def groupsByQuery (rows : List (Comparison α)) : List (Group QuerySize α) :=
  groupsOf QuerySize.all (·.key.query) rows

/-- The labels without a place of their own that occur, in alphabetical order. -/
def unknownLabels (rows : List (Comparison α)) : List String :=
  (distinct ((rows.map (·.key.sizeLabel)).filter fun label => !isKnownSize label)).mergeSort
    fun a b => decide (a ≤ b)

/-- The groups of the size labels that occur: known labels by their place, then the others. -/
def groupsBySize (rows : List (Comparison α)) : List (Group String α) :=
  groupsOf (sizePlaces.map (·.1) ++ unknownLabels rows) (·.key.sizeLabel) rows

end EmbeddingLatency
