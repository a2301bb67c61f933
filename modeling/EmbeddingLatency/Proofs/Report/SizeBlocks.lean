import EmbeddingLatency.Proofs.Comparison.GroupOrder
import EmbeddingLatency.Report.Dataset
import Mathlib.Data.List.SplitBy

/-!
# Rows in blocks

The rows of a size label that has a place stand together. Cut where the size label changes, these
rows fall into the very lists that the groups of their labels are summarized from, in the order of
the groups. Rows and groups of all other labels come behind them.
-/

set_option autoImplicit false

namespace EmbeddingLatency.Report

/-- Rows of one size label. -/
structure SizeBlock where
  label : String
  rows : List (Comparison Float)

namespace SizeBlock

/-- The group of a block. -/
def group (b : SizeBlock) : Group String Float := ⟨b.label, .ofRows b.rows⟩

/-- The rows of a size label as a block, if there are any. -/
def ofLabel? (rows : List (Comparison Float)) (label : String) : Option SizeBlock :=
  match rows.filter fun row => row.key.sizeLabel = label with
  | [] => none
  | members => some ⟨label, members⟩

theorem ofLabel?_eq_some_iff {rows : List (Comparison Float)} {label : String} {b : SizeBlock} :
    ofLabel? rows label = some b ↔ b.label = label ∧ b.rows ≠ [] ∧
      b.rows = rows.filter fun row => row.key.sizeLabel = label := by
  unfold ofLabel?
  obtain ⟨name, members⟩ := b
  cases found : rows.filter fun row => row.key.sizeLabel = label with
  | nil => simp
  | cons row others =>
    simp only [Option.some.injEq, SizeBlock.mk.injEq]
    constructor
    · rintro ⟨rfl, rfl⟩
      simp
    · rintro ⟨rfl, -, rfl⟩
      simp

end SizeBlock

/-- The rows of one size label are one block, and the groups are those of the blocks: `blocks` are
    those of the labels with a place, and behind them come all other rows and groups. -/
structure InBlocks (d : Dataset) (blocks : List SizeBlock) (otherRows : List (Comparison Float))
    (otherGroups : List (Group String Float)) : Prop where
  rows : d.rows = blocks.flatMap (·.rows) ++ otherRows
  groups : d.bySize = blocks.map (·.group) ++ otherGroups
  /-- A block has all rows of its label, and there are some. -/
  whole : ∀ b ∈ blocks, isKnownSize b.label = true ∧ b.rows ≠ [] ∧
    b.rows = d.rows.filter fun row => row.key.sizeLabel = b.label
  once : (blocks.map (·.label)).Nodup
  otherRows : ∀ row ∈ otherRows, isKnownSize row.key.sizeLabel = false
  otherGroups : ∀ g ∈ otherGroups, isKnownSize g.label = false
  /-- Cutting the rows with a place where the size label changes gives the blocks. -/
  cut : ((d.rows.filter fun row => isKnownSize row.key.sizeLabel).splitBy fun a b =>
    a.key.sizeLabel = b.key.sizeLabel) = blocks.map (·.rows)
  /-- The queries to one model of one size label go from short to long. -/
  queries : ∀ label model, ((d.rows.filter fun row =>
    row.key.sizeLabel = label ∧ row.key.modelId = model).map (·.key.query.rank)).Pairwise (· < ·)

section

variable {rows : List (Comparison Float)}

theorem sizePlace_le_of_sortKey {a b : ComparisonKey} (less : a.sortKey < b.sortKey) :
    sizePlace a.sizeLabel ≤ sizePlace b.sizeLabel := by
  rcases Prod.Lex.toLex_lt_toLex.mp less with place | ⟨place, _⟩
  · exact place.le
  · exact place.le

/-- The blocks of labels that are gone through are all rows of these labels. -/
theorem flatMap_ofLabel? (labels : List String) :
    (labels.filterMap (SizeBlock.ofLabel? rows)).flatMap (·.rows) =
      labels.flatMap fun label => rows.filter fun row => row.key.sizeLabel = label := by
  induction labels with
  | nil => rfl
  | cons label labels ih =>
    rw [List.filterMap_cons, List.flatMap_cons]
    cases found : SizeBlock.ofLabel? rows label with
    | none =>
      have none : (rows.filter fun row => row.key.sizeLabel = label) = [] := by
        by_contra some
        have block : SizeBlock.ofLabel? rows label = .some ⟨label, _⟩ :=
          SizeBlock.ofLabel?_eq_some_iff.mpr ⟨rfl, some, rfl⟩
        rw [found] at block
        cases block
      rw [none]
      exact ih
    | some b =>
      obtain ⟨_, _, members⟩ := SizeBlock.ofLabel?_eq_some_iff.mp found
      rw [List.flatMap_cons, ih, members]

/-- Groups are those of the blocks of the labels that are gone through. -/
theorem groupsOf_eq_map_ofLabel? (labels : List String) :
    groupsOf labels (·.key.sizeLabel) rows =
      (labels.filterMap (SizeBlock.ofLabel? rows)).map (·.group) := by
  rw [groupsOf, List.map_filterMap]
  refine List.filterMap_congr fun label _ => ?_
  unfold SizeBlock.ofLabel?
  cases rows.filter fun row => row.key.sizeLabel = label <;> rfl

/-- The blocks of the labels with a place, in the order of their places. -/
def sizeBlocks (rows : List (Comparison Float)) : List SizeBlock :=
  (sizePlaces.map (·.1)).filterMap (SizeBlock.ofLabel? rows)

theorem mem_sizeBlocks {b : SizeBlock} (member : b ∈ sizeBlocks rows) :
    isKnownSize b.label = true ∧ b.rows ≠ [] ∧
      b.rows = rows.filter fun row => row.key.sizeLabel = b.label := by
  obtain ⟨label, listed, found⟩ := List.mem_filterMap.mp member
  obtain ⟨rfl, some, members⟩ := SizeBlock.ofLabel?_eq_some_iff.mp found
  exact ⟨(isKnownSize_iff _).mpr listed, some, members⟩

theorem nodup_labels_sizeBlocks (rows : List (Comparison Float)) :
    ((sizeBlocks rows).map (·.label)).Nodup := by
  have labels : (sizeBlocks rows).map (·.label) =
      (groupsOf (sizePlaces.map (·.1)) (·.key.sizeLabel) rows).map (·.label) := by
    rw [groupsOf_eq_map_ofLabel?, List.map_map]
    rfl
  rw [labels, labels_groupsOf]
  exact (List.nodup_append.mp (nodup_sizeLabels rows)).1.filter _

/-- The rows with a place are the rows of the blocks, one block after the other. -/
theorem flatMap_sizeBlocks (inOrder : rows.Pairwise fun a b => a.key.sortKey < b.key.sortKey) :
    (sizeBlocks rows).flatMap (·.rows) = rows.filter fun row => isKnownSize row.key.sizeLabel := by
  let known := rows.filter fun row => isKnownSize row.key.sizeLabel
  have sameRows : ∀ label ∈ sizePlaces.map (·.1),
      (rows.filter fun row => row.key.sizeLabel = label) =
        known.filter fun row => row.key.sizeLabel = label := by
    intro label listed
    have place := (isKnownSize_iff label).mpr listed
    refine (filter_filter_of_imp (fun row same => ?_) rows).symm
    rw [of_decide_eq_true same, place]
  rw [sizeBlocks, flatMap_ofLabel?, List.flatMap_congr sameRows]
  refine flatMap_filter_label (fun row : Comparison Float => row.key.sizeLabel) sizePlace
    increasing_sizePlaces ?_ ?_
  · exact (inOrder.filter _).imp sizePlace_le_of_sortKey
  · intro row member
    exact (isKnownSize_iff _).mp (List.mem_filter.mp member).2

/-- Rows with a place stand in front of all others. -/
theorem known_append_unknown (inOrder : rows.Pairwise fun a b => a.key.sortKey < b.key.sortKey) :
    (rows.filter fun row => isKnownSize row.key.sizeLabel) ++
      (rows.filter fun row => !isKnownSize row.key.sizeLabel) = rows := by
  refine filter_append_filter_not (inOrder.imp ?_)
  intro a b less listed
  by_contra unlisted
  have place := sizePlace_known_lt_unknown listed (Bool.not_eq_true _ ▸ unlisted)
  exact absurd (sizePlace_le_of_sortKey less) (by omega)

/-- Where the size label changes, a new block begins. -/
theorem splitBy_sizeBlocks (rows : List (Comparison Float)) :
    (((sizeBlocks rows).flatMap (·.rows)).splitBy fun a b =>
      a.key.sizeLabel = b.key.sizeLabel) = (sizeBlocks rows).map (·.rows) := by
  have labelled : ∀ b ∈ sizeBlocks rows, ∀ row ∈ b.rows, row.key.sizeLabel = b.label := by
    intro b member row inside
    rw [(mem_sizeBlocks member).2.2] at inside
    simpa using (List.mem_filter.mp inside).2
  rw [List.flatMap_def]
  refine List.splitBy_flatten ?_ ?_ ?_
  · intro empty
    obtain ⟨b, member, none⟩ := List.mem_map.mp empty
    exact (mem_sizeBlocks member).2.1 none
  · intro members listed
    obtain ⟨b, member, rfl⟩ := List.mem_map.mp listed
    refine List.Pairwise.isChain (List.pairwise_of_forall_mem_list ?_)
    intro row inside row' inside'
    rw [labelled b member row inside, labelled b member row' inside']
    exact decide_eq_true rfl
  · have apart := nodup_labels_sizeBlocks rows
    rw [List.Nodup, List.pairwise_map] at apart
    rw [List.isChain_map]
    refine (apart.imp_of_mem ?_).isChain
    intro b b' member member' different
    have some := (mem_sizeBlocks member).2.1
    have some' := (mem_sizeBlocks member').2.1
    refine ⟨some, some', decide_eq_false ?_⟩
    rw [labelled b member _ (List.getLast_mem some), labelled b' member' _ (List.head_mem some')]
    exact different

/-- Keys of one model and size label are in the order of their query sizes. -/
theorem rank_lt_of_sortKey {a b : ComparisonKey} (less : a.sortKey < b.sortKey)
    (size : a.sizeLabel = b.sizeLabel) (model : a.modelId = b.modelId) :
    a.query.rank < b.query.rank := by
  simpa [ComparisonKey.sortKey, Prod.Lex.toLex_lt_toLex, size, model] using less

theorem inBlocks_of_increasing (context : RunContext)
    (inOrder : ComparisonKey.Increasing (rows.map (·.key))) :
    InBlocks (.ofRows context rows) (sizeBlocks rows)
      (rows.filter fun row => !isKnownSize row.key.sizeLabel)
      (groupsOf (unknownLabels rows) (·.key.sizeLabel) rows) := by
  rw [ComparisonKey.Increasing, List.pairwise_map] at inOrder
  have known := flatMap_sizeBlocks inOrder
  refine
    { rows := ?rows, groups := ?groups, whole := fun b => mem_sizeBlocks,
      once := nodup_labels_sizeBlocks rows, otherRows := ?otherRows, otherGroups := ?otherGroups,
      cut := ?cut, queries := ?queries }
  case rows =>
    rw [known]
    exact (known_append_unknown inOrder).symm
  case groups =>
    show groupsBySize rows = _
    rw [groupsBySize, groupsOf, List.filterMap_append]
    exact congrArg (· ++ _) (groupsOf_eq_map_ofLabel? _)
  case otherRows =>
    intro row member
    simpa using (List.mem_filter.mp member).2
  case otherGroups =>
    intro g member
    have listed : g.label ∈ (groupsOf (unknownLabels rows) (·.key.sizeLabel) rows).map (·.label) :=
      List.mem_map_of_mem member
    rw [labels_groupsOf] at listed
    exact ((mem_unknownLabels_iff rows _).mp (List.mem_filter.mp listed).1).2
  case cut =>
    show ((rows.filter fun row => isKnownSize row.key.sizeLabel).splitBy _) = _
    rw [← known]
    exact splitBy_sizeBlocks rows
  case queries =>
    intro label model
    rw [List.pairwise_map]
    refine (inOrder.filter _).imp_of_mem ?_
    intro a b member member' less
    have first := (List.mem_filter.mp member).2
    have second := (List.mem_filter.mp member').2
    simp only [decide_eq_true_eq] at first second
    exact rank_lt_of_sortKey less (first.1.trans second.1.symm) (first.2.trans second.2.symm)

end

/-- **Rows and groups agree.** In the data set of any run the rows of each size label with a
    place are one block, the blocks come in the order of their groups and are what these groups
    are summarized from, everything else comes behind them, and the queries to a model go from
    short to long. -/
theorem rows_agree_with_groups (run : Results) : ∃ blocks otherRows otherGroups,
    InBlocks (.ofResults run) blocks otherRows otherGroups :=
  ⟨_, _, _, inBlocks_of_increasing run.context (Comparison.increasing_ofAll run.timings)⟩

end EmbeddingLatency.Report
