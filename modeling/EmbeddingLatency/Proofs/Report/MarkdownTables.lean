import EmbeddingLatency.Proofs.Report.Columns
import EmbeddingLatency.Proofs.Report.PipeTables

/-!
# The tables of the Markdown report

The report is a preamble and four tables, each under its heading (`markdown_eq`). All
figures, counts and marks for missing values can stand in a cell as they are. What comes from
outside are names of models, size labels and types of models: whether the tables are read
back depends on these only.
-/

set_option autoImplicit false

namespace EmbeddingLatency.Report

open EmbeddingLatency.Decimal (digits fixed isDigit_of_mem_toDigits mem_fixed)

instance (text : String) : Decidable (Plain text) :=
  List.decidableBAll (fun c => c ≠ '|' ∧ endsLine c = false) text.toList

section Plain

theorem Plain.append {text other : String} (plain : Plain text) (plain' : Plain other) :
    Plain (text ++ other) := by
  intro c member
  rw [String.toList_append, List.mem_append] at member
  rcases member with front | back
  · exact plain c front
  · exact plain' c back

theorem plain_of_isDigit {c : Char} (digit : c.isDigit = true) : c ≠ '|' ∧ endsLine c = false := by
  constructor
  · rintro rfl
    exact absurd digit (by decide)
  · unfold endsLine
    by_contra ends
    simp only [Bool.or_eq_false_iff, decide_eq_false_iff_not, not_and_or, not_not] at ends
    rcases ends with rfl | rfl
    · exact absurd digit (by decide)
    · exact absurd digit (by decide)

theorem plain_fixed (places : Nat) (x : Float) : Plain (fixed places x) := by
  intro c member
  rcases mem_fixed member with digit | other
  · exact plain_of_isDigit digit
  · have plain : Plain "-.NaNinf" := by decide
    exact plain c other

theorem plain_digits (n : Nat) : Plain (digits n) := by
  intro c member
  have member : c ∈ Nat.toDigits 10 n := by simpa [digits] using member
  exact plain_of_isDigit (isDigit_of_mem_toDigits member)

theorem plain_paramsText (n : Nat) : Plain (paramsText n) := by
  have billions : Plain "B" := by decide
  have millions : Plain "M" := by decide
  unfold paramsText
  split
  · exact (plain_fixed _ _).append billions
  · exact (plain_fixed _ _).append millions

theorem plain_loadTimeText (ms : Option Float) : Plain (loadTimeText ms) := by
  cases ms with
  | none => decide
  | some ms =>
    have seconds : Plain "s" := by decide
    have milliseconds : Plain "ms" := by decide
    rw [loadTimeText]
    split
    · exact (plain_fixed _ _).append seconds
    · exact (plain_fixed _ _).append milliseconds

theorem plain_getD {α : Type} {write : α → String} {mark : String} (value : Option α)
    (plain : ∀ a, Plain (write a)) (marked : Plain mark) : Plain ((value.map write).getD mark) := by
  cases value with
  | none => exact marked
  | some a => exact plain a

theorem plain_label (q : QuerySize) : Plain q.label := by
  cases q <;> decide

theorem plain_timingCells (withGpu : Bool) (cpu : GroupFigures Float)
    (gpu : Option (GroupFigures Float))
    (ratio : Option Float) : ∀ cell ∈ timingCells withGpu cpu gpu ratio, Plain cell := by
  have ms (x : Option Float) : Plain (msOrMissing x) := plain_getD x (plain_fixed 2) (by decide)
  have speedup : Plain (speedupOrMissing ratio) :=
    plain_getD ratio (fun r => (plain_fixed 1 r).append (by decide)) (by decide)
  intro cell member
  rcases List.mem_append.mp member with onCpu | onGpu
  · simp only [List.mem_cons, List.not_mem_nil, or_false] at onCpu
    rcases onCpu with rfl | rfl | rfl <;> exact plain_fixed 2 _
  · split at onGpu
    · simp only [List.mem_cons, List.not_mem_nil, or_false] at onGpu
      rcases onGpu with rfl | rfl | rfl | rfl
      · exact ms _
      · exact ms _
      · exact ms _
      · exact speedup
    · cases onGpu

end Plain

/-- The tables of the report under their headings. -/
def markdownSections (d : Dataset) : List (String × PipeTable) :=
  [("\n## Models\n\n",
    ⟨["Model", "Size", "Params", "Dim", "Max Seq", "Load Time", "Type"], d.models.map modelCells⟩),
   ("\n## CPU vs GPU Comparison - all times in ms (per model + query)\n\n",
    ⟨["Model", "Size", "Params", "Dim", "Query"] ++ timingHeaders d.context.gpuAvailable "Speedup",
     d.rows.map (comparisonCells d.context.gpuAvailable)⟩),
   ("\n## Aggregated by Query Size - all times in ms (avg across all models)\n\n",
    ⟨"Query Size" :: timingHeaders d.context.gpuAvailable "Avg Speedup",
     d.byQuery.map fun g => summaryCells d.context.gpuAvailable g.label.label g.summary⟩),
   ("\n## Aggregated by Model Size - all times in ms (avg across all query lengths)\n\n",
    ⟨"Model Size" :: timingHeaders d.context.gpuAvailable "Avg Speedup",
     d.bySize.map fun g => summaryCells d.context.gpuAvailable g.label g.summary⟩)]

/-- What stands in front of the tables. -/
def preamble (d : Dataset) : String :=
  "# Embedding Benchmark Results\n\n" ++
  "**Run Date:** " ++ d.context.startedAt.readable ++ "  \n" ++
  "**Total Runtime:** " ++ runtimeText d.context.totalRuntime ++ "\n\n" ++
  "## Hardware\n\n" ++ hardwareFacts d.context.hardware ++
  "\n## Configuration\n\n" ++ configFacts d.context

/-- The texts of a data set that come from outside can stand in cells as they are. -/
structure Dataset.Plain (d : Dataset) : Prop where
  names : ∀ row ∈ d.rows, Report.Plain (bareName row.key.modelId)
  sizes : ∀ row ∈ d.rows, Report.Plain row.key.sizeLabel
  types : ∀ row ∈ d.models, ∀ type, row.modelType = some type → Report.Plain type
  groups : ∀ g ∈ d.bySize, Report.Plain g.label

section Sections

variable {d : Dataset}

theorem markdown_eq (d : Dataset) :
    markdown d =
      preamble d ++
        String.join ((markdownSections d).map fun table => table.1 ++ table.2.text) := by
  simp only [markdownSections, List.map_cons, List.map_nil, String.join_cons, String.join_nil,
    PipeTable.text, String.append_empty]
  unfold markdown preamble modelsTable comparisonTable groupsTable
  simp only [String.append_assoc, id_eq]

theorem rectangular_of_mem {heading : String} {t : PipeTable}
    (member : (heading, t) ∈ markdownSections d) :
    t.Rectangular := by
  simp only [markdownSections, List.mem_cons, Prod.mk.injEq, List.not_mem_nil, or_false] at member
  rcases member with ⟨-, rfl⟩ | ⟨-, rfl⟩ | ⟨-, rfl⟩ | ⟨-, rfl⟩
  all_goals
    refine ⟨List.cons_ne_nil _ _, List.forall_mem_map.mpr fun row _ => ?_⟩
  · rfl
  · rw [comparisonCells, rowCells, List.length_append, List.length_append, length_timingCells]
    rfl
  · rw [summaryCells, List.length_cons, List.length_cons, length_timingCells]
  · rw [summaryCells, List.length_cons, List.length_cons, length_timingCells]

theorem plain_of_mem_headers {heading header : String} {t : PipeTable}
    (member : (heading, t) ∈ markdownSections d) (named : header ∈ t.headers) : Plain header := by
  have models :
      ∀ header ∈ ["Model", "Size", "Params", "Dim", "Max Seq", "Load Time", "Type"],
        Plain header := by
    decide
  have rows : ∀ withGpu, ∀ header ∈
      ["Model", "Size", "Params", "Dim", "Query"] ++ timingHeaders withGpu "Speedup",
        Plain header := by
    decide
  have groups : ∀ withGpu, ∀ header ∈
      ["Query Size", "Model Size"] ++ timingHeaders withGpu "Avg Speedup", Plain header := by
    decide
  simp only [markdownSections, List.mem_cons, Prod.mk.injEq, List.not_mem_nil, or_false] at member
  rcases member with ⟨-, rfl⟩ | ⟨-, rfl⟩ | ⟨-, rfl⟩ | ⟨-, rfl⟩
  · exact models header named
  · exact rows _ header named
  · exact groups _ header (List.cons_subset_cons _ (List.subset_cons_self _ _) named)
  · exact groups _ header (List.mem_cons_of_mem _ named)

theorem plain_orQuestionMark_iff (text : Option String) :
    Plain (orQuestionMark text) ↔ ∀ known, text = some known → Plain known := by
  cases text with
  | none =>
    have mark : Plain "?" := by decide
    exact ⟨fun _ _ known => (nomatch known), fun _ => mark⟩
  | some text =>
    exact ⟨fun plain _ known => Option.some.inj known ▸ plain, fun plain => plain text rfl⟩

theorem plain_modelCells_iff (row : Comparison Float) :
    (∀ cell ∈ modelCells row, Plain cell) ↔
      Plain (bareName row.key.modelId) ∧ Plain row.key.sizeLabel ∧
        ∀ type, row.modelType = some type → Plain type := by
  have mark : Plain "?" := by decide
  have count (n : Option Nat) : Plain (countOrUnknown n) := plain_getD n plain_digits mark
  have params : Plain (orQuestionMark row.paramsText) := plain_getD _ plain_paramsText mark
  simp only [modelCells, List.forall_mem_cons, plain_orQuestionMark_iff row.modelType, count,
    params, plain_loadTimeText, List.not_mem_nil, false_implies, implies_true, true_and, and_true]

theorem plain_comparisonCells_iff (withGpu : Bool) (row : Comparison Float) :
    (∀ cell ∈ comparisonCells withGpu row, Plain cell) ↔
      Plain (bareName row.key.modelId) ∧ Plain row.key.sizeLabel := by
  have mark : Plain "?" := by decide
  have count (n : Option Nat) : Plain (countOrUnknown n) := plain_getD n plain_digits mark
  have params : Plain (orQuestionMark row.paramsText) := plain_getD _ plain_paramsText mark
  have timings : ∀ cell ∈ rowCells withGpu row, Plain cell := plain_timingCells _ _ _ _
  rw [comparisonCells, List.forall_mem_append, and_iff_left timings]
  simp only [List.forall_mem_cons, count, params, plain_label, List.not_mem_nil, false_implies,
    implies_true, and_true]

theorem plain_summaryCells_iff (withGpu : Bool) (label : String) (s : GroupSummary Float) :
    (∀ cell ∈ summaryCells withGpu label s, Plain cell) ↔ Plain label := by
  rw [summaryCells, List.forall_mem_cons]
  exact and_iff_left (plain_timingCells _ _ _ _)

/-- The cells of all tables are plain exactly if the texts from outside are. -/
theorem plain_sections_iff (d : Dataset) :
    (∀ s ∈ markdownSections d, ∀ row ∈ s.2.rows, ∀ cell ∈ row, Plain cell) ↔ d.Plain := by
  simp only [markdownSections, List.forall_mem_cons, List.forall_mem_map, plain_modelCells_iff,
    plain_comparisonCells_iff, plain_summaryCells_iff, plain_label, List.not_mem_nil, false_implies,
    implies_true, true_and, and_true]
  constructor
  · rintro ⟨models, rows, groups⟩
    exact ⟨fun row member => (rows row member).1, fun row member => (rows row member).2,
      fun row member => (models row member).2.2, groups⟩
  · rintro ⟨names, sizes, types, groups⟩
    refine ⟨fun row member => ?_, fun row member => ⟨names row member, sizes row member⟩, groups⟩
    have listed : row ∈ d.rows := (distinctBy_sublist _ d.rows).subset member
    exact ⟨names row listed, sizes row listed, types row member⟩

theorem readsBack_sections_iff (d : Dataset) :
    (∀ s ∈ markdownSections d, s.2.ReadsBack s.2.text) ↔ d.Plain := by
  rw [← plain_sections_iff]
  apply forall₂_congr
  intro s member
  exact PipeTable.readsBack_text_iff (rectangular_of_mem member) fun header =>
    plain_of_mem_headers member

end Sections

/-- **Tables read back.** The Markdown report is a preamble and four tables with as many cells in
    every row as there are headers. They are read back, line by line and cell by cell, exactly if no
    name of a model, no size label and no type of a model has a pipe or a line end in it. -/
theorem markdown_tables_read_back (d : Dataset) :
    markdown d =
        preamble d ++ String.join ((markdownSections d).map fun table => table.1 ++ table.2.text) ∧
      (∀ s ∈ markdownSections d, ∀ row ∈ s.2.rows, row.length = s.2.headers.length) ∧
      ((∀ s ∈ markdownSections d, s.2.ReadsBack s.2.text) ↔ d.Plain) :=
  ⟨markdown_eq d, fun _ member => (rectangular_of_mem member).rows, readsBack_sections_iff d⟩

/-- A run of a model whose type has a pipe in it. -/
def pipedType : Dataset :=
  .ofRows ⟨⟨100, 10, .quick, false⟩, false, .unknown, ⟨0, 0⟩, 2.0⟩
    [{ key := ⟨"org/mini", "small", .short⟩
       cpu := ⟨1.0, 0.0, 1.0, 1.0, 1.0⟩
       gpu := none
       embeddingDim := some 384
       numParameters := some 22713216
       maxSeqLength := some 512
       modelType := some "a|b"
       cpuLoadTime := some 250.0
       gpuLoadTime := none }]

/-- The type is cut in two. -/
theorem pipedType_not_read_back :
    ¬∀ d : Dataset, ∀ s ∈ markdownSections d, s.2.ReadsBack s.2.text := by
  intro all
  have plain := (readsBack_sections_iff pipedType).mp (all pipedType)
  have inModels : ∃ row ∈ pipedType.models, row.modelType = some "a|b" :=
    ⟨_, List.mem_cons_self, rfl⟩
  obtain ⟨row, member, type⟩ := inModels
  have cut := plain.types row member "a|b" type
  exact absurd cut (by decide)

end EmbeddingLatency.Report
