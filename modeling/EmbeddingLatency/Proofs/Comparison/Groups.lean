import EmbeddingLatency.Grouping

/-!
# The labels of groups

Which groups some rows have: one for each label that occurs in a row, in the order in which the
labels are gone through. Size labels are gone through in two parts, those with a place and the
others, which have no label in common.
-/

set_option autoImplicit false

namespace EmbeddingLatency

variable {α κ : Type} [Add α] [Div α] [Scalar α] [DecidableEq κ]

/-- A label that is gone through has a group if it occurs in a row. -/
theorem labels_groupsOf (labels : List κ) (labelOf : Comparison α → κ)
    (rows : List (Comparison α)) :
    (groupsOf labels labelOf rows).map (·.label) =
      labels.filter fun label => label ∈ rows.map labelOf := by
  induction labels with
  | nil => rfl
  | cons label rest ih =>
    rw [groupsOf, List.filterMap_cons]
    cases members : rows.filter fun row => labelOf row = label with
    | nil =>
      have absent : label ∉ rows.map labelOf := by
        intro occurs
        obtain ⟨row, member, rfl⟩ := List.mem_map.mp occurs
        simpa using List.filter_eq_nil_iff.mp members row member
      rw [List.filter_cons_of_neg (by simpa using absent)]
      exact ih
    | cons row others =>
      have occurs : label ∈ rows.map labelOf := by
        have member : row ∈ rows.filter fun row => labelOf row = label := by simp [members]
        obtain ⟨member, same⟩ := List.mem_filter.mp member
        exact List.mem_map.mpr ⟨row, member, of_decide_eq_true same⟩
      rw [List.filter_cons_of_pos (by simpa using occurs), List.map_cons]
      exact congrArg (label :: ·) ih

theorem isKnownSize_iff (label : String) :
    isKnownSize label = true ↔ label ∈ sizePlaces.map (·.1) := by
  simp [isKnownSize]

omit [Add α] [Div α] [Scalar α] in
theorem mem_unknownLabels_iff (rows : List (Comparison α)) (label : String) :
    label ∈ unknownLabels rows ↔ label ∈ rows.map (·.key.sizeLabel) ∧
    isKnownSize label = false := by
  rw [unknownLabels, List.mem_mergeSort, mem_distinct, List.mem_filter, Bool.not_eq_true']

omit [Add α] [Div α] [Scalar α] in
/-- Size labels are gone through once each. -/
theorem nodup_sizeLabels (rows : List (Comparison α)) :
    (sizePlaces.map (·.1) ++ unknownLabels rows).Nodup := by
  have known : (sizePlaces.map (·.1)).Nodup := by decide
  have unknown : (unknownLabels rows).Nodup :=
    (List.mergeSort_perm _ _).nodup_iff.mpr (nodup_distinct _)
  refine List.nodup_append.mpr ⟨known, unknown, ?_⟩
  rintro label listed _ unlisted rfl
  have place := (isKnownSize_iff label).mpr listed
  rw [((mem_unknownLabels_iff rows label).mp unlisted).2] at place
  cases place

/-- No size label has two groups. -/
theorem nodup_labels_groupsBySize (rows : List (Comparison α)) :
    ((groupsBySize rows).map (·.label)).Nodup := by
  rw [groupsBySize, labels_groupsOf]
  exact (nodup_sizeLabels rows).filter _

/-- The size labels that have a group are those of the rows. -/
theorem mem_labels_groupsBySize (rows : List (Comparison α)) (label : String) :
    label ∈ (groupsBySize rows).map (·.label) ↔ label ∈ rows.map (·.key.sizeLabel) := by
  rw [groupsBySize, labels_groupsOf, List.mem_filter, List.mem_append, ← isKnownSize_iff,
    mem_unknownLabels_iff, decide_eq_true_eq]
  cases isKnownSize label <;> simp

/-- The query sizes that have a group are those of the rows, from short to long. -/
theorem labels_groupsByQuery (rows : List (Comparison α)) :
    (groupsByQuery rows).map (·.label) =
      QuerySize.all.filter fun query => query ∈ rows.map (·.key.query) :=
  labels_groupsOf QuerySize.all (·.key.query) rows

end EmbeddingLatency
