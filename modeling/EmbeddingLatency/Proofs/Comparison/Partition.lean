import EmbeddingLatency.Proofs.Comparison.Changes
import EmbeddingLatency.Proofs.Statistics.Places
import EmbeddingLatency.Proofs.Text.ByteOrder
import Mathlib.Algebra.BigOperators.Group.List.Basic
import Mathlib.Data.List.Perm.Basic

/-!
# Rows and their groups

Grouping puts every row into one group. Labels that are gone through once each, and among them all
that occur, give a partition of the rows (`partitions_groupsOf`); so do query sizes, and so do size
labels with those that have no place of their own.

A mean times the number of its samples is their sum. What the groups of a partition have together is
therefore what the rows have, in exact arithmetic, and does not depend on what rows are grouped by
(`Partitions.cpuTotal_eq`, `Partitions.gpuTotal_eq`).
-/

set_option autoImplicit false

namespace EmbeddingLatency

namespace Samples

theorem sum_eq_list_sum (samples : List ℚ) : Samples.sum samples = samples.sum :=
  List.sum_eq_foldl.symm

/-- The mean once for each sample. -/
theorem length_mul_mean (samples : List ℚ) :
    samples.length * Samples.mean samples = samples.sum := by
  cases samples with
  | nil => simp
  | cons x rest =>
    have some : ((x :: rest).length : ℚ) ≠ 0 := by
      exact_mod_cast Nat.succ_ne_zero rest.length
    unfold mean
    rw [sum_eq_list_sum]
    exact mul_div_cancel₀ _ some

end Samples

section

variable {α κ : Type} [DecidableEq κ]

/-- The rows with a label. -/
def membersOf (labelOf : Comparison α → κ) (rows : List (Comparison α)) (label : κ) :
    List (Comparison α) :=
  rows.filter fun row => labelOf row = label

variable [Add α] [Div α] [Scalar α]

/-- Each figure is the mean of this figure of the summaries. -/
structure GroupFigures.Averages (figures : GroupFigures α) (summaries : List (LatencySummary α)) :
    Prop where
  mean : figures.mean = Samples.mean (summaries.map (·.mean))
  p50 : figures.p50 = Samples.mean (summaries.map (·.p50))
  p95 : figures.p95 = Samples.mean (summaries.map (·.p95))

/-- The figures of the CPU are those of all rows, the figures of the accelerator those of the rows
    that have any. -/
structure GroupSummary.Summarizes (summary : GroupSummary α) (members : List (Comparison α)) :
    Prop where
  cpu : summary.cpu.Averages (members.map (·.cpu))
  gpu : ∀ figures ∈ summary.gpu, figures.Averages (members.filterMap (·.gpu))
  gpu_eq_none_iff : summary.gpu = none ↔ ∀ row ∈ members, row.gpu = none

/-- Each row is in one group, and the groups are about their rows. -/
structure Partitions (labelOf : Comparison α → κ) (rows : List (Comparison α))
    (groups : List (Group κ α)) : Prop where
  nodup_labels : (groups.map (·.label)).Nodup
  mem_labels_iff : ∀ label, label ∈ groups.map (·.label) ↔ label ∈ rows.map labelOf
  covers : (groups.flatMap fun g => membersOf labelOf rows g.label).Perm rows
  filled : ∀ g ∈ groups, membersOf labelOf rows g.label ≠ []
  summarizes : ∀ g ∈ groups, g.summary.Summarizes (membersOf labelOf rows g.label)

end

/-- Labels with a place in the order of their places, and behind them the others in the order
    of their bytes. -/
structure InSizeOrder (labels : List String) : Prop where
  split : ∃ known unknown, labels = known ++ unknown ∧ known.Sublist (sizePlaces.map (·.1)) ∧
    (∀ label ∈ unknown, label ∉ sizePlaces.map (·.1)) ∧
    unknown.Pairwise fun a b => Text.bytes a < Text.bytes b

section Partition

variable {α κ : Type} [DecidableEq κ]

/-- Going through labels that occur once each, one comes by each row once. -/
theorem perm_flatMap_membersOf (labelOf : Comparison α → κ) {labels : List κ}
    {rows : List (Comparison α)} (nodup : labels.Nodup)
    (listed : ∀ row ∈ rows, labelOf row ∈ labels) :
    (labels.flatMap (membersOf labelOf rows)).Perm rows := by
  induction labels generalizing rows with
  | nil =>
    have none : rows = [] := List.eq_nil_iff_forall_not_mem.mpr fun row member =>
      absurd (listed row member) List.not_mem_nil
    rw [none, List.flatMap_nil]
  | cons label labels ih =>
    obtain ⟨fresh, nodup⟩ := List.nodup_cons.mp nodup
    have listed' : ∀ row ∈ rows.filter fun row => !decide (labelOf row = label),
        labelOf row ∈ labels := by
      intro row member
      obtain ⟨member, elsewhere⟩ := List.mem_filter.mp member
      have different : labelOf row ≠ label := by simpa using elsewhere
      exact (List.mem_cons.mp (listed row member)).resolve_left different
    have others : ∀ other ∈ labels, membersOf labelOf rows other =
        membersOf labelOf (rows.filter fun row => !decide (labelOf row = label)) other := by
      intro other member
      refine (filter_filter_of_imp (fun row here => ?_) rows).symm
      have here : labelOf row = other := of_decide_eq_true here
      have different : labelOf row ≠ label := by
        intro same
        exact fresh (same ▸ here ▸ member)
      simpa using different
    rw [List.flatMap_cons, List.flatMap_congr others]
    exact ((ih nodup listed').append_left _).trans (List.filter_append_perm _ rows)

variable [Add α] [Div α] [Scalar α]

theorem GroupFigures.averages_ofSummaries (summaries : List (LatencySummary α)) :
    (GroupFigures.ofSummaries summaries).Averages summaries := ⟨rfl, rfl, rfl⟩

theorem GroupSummary.summarizes_ofRows (members : List (Comparison α)) :
    (GroupSummary.ofRows members).Summarizes members where
  cpu := GroupFigures.averages_ofSummaries _
  gpu := by
    intro figures found
    unfold ofRows at found
    dsimp only at found
    split at found
    · cases found
    · cases found
      exact GroupFigures.averages_ofSummaries _
  gpu_eq_none_iff := by
    rw [← List.filterMap_eq_nil_iff]
    unfold ofRows
    dsimp only
    split
    · rename_i none
      exact iff_of_true rfl none
    · rename_i some
      exact iff_of_false nofun some

variable {labelOf : Comparison α → κ} {rows : List (Comparison α)}

/-- A label has a group if it has any rows. -/
theorem groupAt?_eq_some_iff {label : κ} {g : Group κ α} :
    groupAt? labelOf rows label = some g ↔
      membersOf labelOf rows label ≠ [] ∧ g = ⟨label, .ofRows (membersOf labelOf rows label)⟩ := by
  cases members : membersOf labelOf rows label with
  | nil =>
    unfold membersOf at members
    rw [groupAt?, members]
    simp
  | cons row rest =>
    unfold membersOf at members
    rw [groupAt?, members]
    simp [eq_comm]

theorem mem_groupsOf {labels : List κ} {g : Group κ α} (member : g ∈ groupsOf labels labelOf rows) :
    membersOf labelOf rows g.label ≠ [] ∧
      g.summary = .ofRows (membersOf labelOf rows g.label) := by
  rw [groupsOf_eq_filterMap] at member
  obtain ⟨label, _, found⟩ := List.mem_filterMap.mp member
  obtain ⟨filled, rfl⟩ := groupAt?_eq_some_iff.mp found
  exact ⟨filled, rfl⟩

/-- A label without rows may be left out. -/
theorem flatMap_groupsOf (labels : List κ) :
    ((groupsOf labels labelOf rows).flatMap fun g => membersOf labelOf rows g.label) =
      labels.flatMap (membersOf labelOf rows) := by
  rw [groupsOf_eq_filterMap, List.filterMap_eq_flatMap_toList, List.flatMap_assoc]
  refine List.flatMap_congr fun label _ => ?_
  cases found : groupAt? labelOf rows label with
  | none =>
    have unfilled : membersOf labelOf rows label = [] := by
      by_contra filled
      rw [groupAt?_eq_some_iff.mpr ⟨filled, rfl⟩] at found
      cases found
    rw [unfilled]
    rfl
  | some g =>
    obtain ⟨_, rfl⟩ := groupAt?_eq_some_iff.mp found
    exact List.flatMap_singleton _ _

/-- Groups of labels that are gone through once each. -/
theorem partitions_groupsOf {labels : List κ} (nodup : labels.Nodup)
    (listed : ∀ row ∈ rows, labelOf row ∈ labels) :
    Partitions labelOf rows (groupsOf labels labelOf rows) where
  nodup_labels := by
    rw [labels_groupsOf]
    exact nodup.filter _
  mem_labels_iff := by
    intro label
    rw [labels_groupsOf, List.mem_filter, decide_eq_true_eq]
    constructor
    · exact fun ⟨_, occurs⟩ => occurs
    · intro occurs
      obtain ⟨row, member, rfl⟩ := List.mem_map.mp occurs
      exact ⟨listed row member, occurs⟩
  covers := by
    rw [flatMap_groupsOf]
    exact perm_flatMap_membersOf labelOf nodup listed
  filled := fun g member => (mem_groupsOf member).1
  summarizes := by
    intro g member
    rw [(mem_groupsOf member).2]
    exact GroupSummary.summarizes_ofRows _

theorem partitions_groupsByQuery (rows : List (Comparison α)) :
    Partitions (·.key.query) rows (groupsByQuery rows) :=
  partitions_groupsOf (by decide) fun row _ => QuerySize.mem_all row.key.query

theorem partitions_groupsBySize (rows : List (Comparison α)) :
    Partitions (·.key.sizeLabel) rows (groupsBySize rows) := by
  refine partitions_groupsOf (nodup_sizeLabels rows) ?_
  intro row member
  have occurs : row.key.sizeLabel ∈ rows.map (·.key.sizeLabel) := List.mem_map_of_mem member
  apply List.mem_append.mpr
  cases known : isKnownSize row.key.sizeLabel with
  | true => exact .inl ((isKnownSize_iff _).mp known)
  | false => exact .inr ((mem_unknownLabels_iff rows _).mpr ⟨occurs, known⟩)

theorem labels_groupsByQuery_sublist (rows : List (Comparison α)) :
    ((groupsByQuery rows).map (·.label)).Sublist QuerySize.all := by
  rw [labels_groupsByQuery]
  exact List.filter_sublist

theorem inSizeOrder_groupsBySize (rows : List (Comparison α)) :
    InSizeOrder ((groupsBySize rows).map (·.label)) := by
  constructor
  refine ⟨_, _, by rw [groupsBySize, labels_groupsOf, List.filter_append],
    List.filter_sublist, ?_, ?_⟩
  · intro label member known
    have unlisted := ((mem_unknownLabels_iff rows label).mp (List.mem_filter.mp member).1).2
    rw [(isKnownSize_iff label).mpr known] at unlisted
    cases unlisted
  · exact ((increasing_unknownLabels rows).imp Text.bytes_lt_bytes).filter _

end Partition

section Totals

variable {κ : Type} [DecidableEq κ] {labelOf : Comparison ℚ → κ} {rows : List (Comparison ℚ)}
  {groups : List (Group κ ℚ)}

/-- The means of the groups on the CPU, once for each row. -/
def cpuTotal (labelOf : Comparison ℚ → κ) (rows : List (Comparison ℚ))
    (groups : List (Group κ ℚ)) : ℚ :=
  (groups.map fun g => ((membersOf labelOf rows g.label).length : ℚ) * g.summary.cpu.mean).sum

/-- The means of the groups on the accelerator, once for each row that has one. -/
def gpuTotal (labelOf : Comparison ℚ → κ) (rows : List (Comparison ℚ))
    (groups : List (Group κ ℚ)) : ℚ :=
  (groups.map fun g =>
    (((membersOf labelOf rows g.label).filterMap (·.gpu)).length : ℚ) *
      (g.summary.gpu.map (·.mean)).getD 0).sum

/-- The groups have together what their rows have. -/
structure KeepsTotals (labelOf : Comparison ℚ → κ) (rows : List (Comparison ℚ))
    (groups : List (Group κ ℚ)) : Prop where
  cpu : cpuTotal labelOf rows groups = (rows.map (·.cpu.mean)).sum
  gpu : gpuTotal labelOf rows groups = (rows.filterMap (·.gpuMean)).sum

/-- What is added up group by group is added up over all rows. -/
theorem Partitions.sum_filterMap (parts : Partitions labelOf rows groups)
    (value : Comparison ℚ → Option ℚ) :
    (groups.map fun g => ((membersOf labelOf rows g.label).filterMap value).sum).sum =
      (rows.filterMap value).sum := by
  rw [← (parts.covers.filterMap value).sum_eq, List.filterMap_flatMap, List.flatMap_def,
    List.sum_flatten, List.map_map]
  rfl

theorem Partitions.cpuTotal_eq (parts : Partitions labelOf rows groups) :
    cpuTotal labelOf rows groups = (rows.map (·.cpu.mean)).sum := by
  rw [← List.filterMap_eq_map, ← parts.sum_filterMap]
  unfold cpuTotal
  apply congrArg List.sum
  apply List.map_congr_left
  intro g member
  have mean := (parts.summarizes g member).cpu.mean
  rw [List.map_map] at mean
  rw [mean, List.filterMap_eq_map, ← Samples.length_mul_mean, List.length_map]
  rfl

theorem map_mean_filterMap_gpu (members : List (Comparison ℚ)) :
    (members.filterMap (·.gpu)).map (·.mean) = members.filterMap (·.gpuMean) :=
  List.map_filterMap

theorem Partitions.gpuTotal_eq (parts : Partitions labelOf rows groups) :
    gpuTotal labelOf rows groups = (rows.filterMap (·.gpuMean)).sum := by
  rw [← parts.sum_filterMap]
  unfold gpuTotal
  apply congrArg List.sum
  apply List.map_congr_left
  intro g member
  have summarizes := parts.summarizes g member
  rw [← map_mean_filterMap_gpu]
  cases found : g.summary.gpu with
  | none =>
    have none := List.filterMap_eq_nil_iff.mpr (summarizes.gpu_eq_none_iff.mp found)
    rw [none]
    simp
  | some figures =>
    have mean := (summarizes.gpu figures found).mean
    rw [Option.map_some, Option.getD_some, mean, ← Samples.length_mul_mean, List.length_map]

theorem Partitions.keepsTotals (parts : Partitions labelOf rows groups) :
    KeepsTotals labelOf rows groups := ⟨parts.cpuTotal_eq, parts.gpuTotal_eq⟩

end Totals

/-- **Groups are a partition.** Rows in any order are put into one group each, by query sizes and by
    size labels, and the groups stand in the order of their labels. In exact arithmetic the means of
    the groups, weighed by their rows, come to the same sum both times: that of the rows. -/
theorem groups_partition_rows :
    (∀ {α : Type} [Add α] [Div α] [Scalar α] (rows : List (Comparison α)),
      Partitions (·.key.query) rows (groupsByQuery rows) ∧
        ((groupsByQuery rows).map (·.label)).Sublist QuerySize.all ∧
        Partitions (·.key.sizeLabel) rows (groupsBySize rows) ∧
        InSizeOrder ((groupsBySize rows).map (·.label))) ∧
      ∀ rows : List (Comparison ℚ),
        KeepsTotals (·.key.query) rows (groupsByQuery rows) ∧
          KeepsTotals (·.key.sizeLabel) rows (groupsBySize rows) := by
  constructor
  · intro α _ _ _ rows
    exact ⟨partitions_groupsByQuery rows, labels_groupsByQuery_sublist rows,
      partitions_groupsBySize rows, inSizeOrder_groupsBySize rows⟩
  · intro rows
    exact ⟨(partitions_groupsByQuery rows).keepsTotals, (partitions_groupsBySize rows).keepsTotals⟩

end EmbeddingLatency
