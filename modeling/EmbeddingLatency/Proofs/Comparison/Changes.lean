import EmbeddingLatency.Proofs.Comparison.GroupOrder

/-!
# One change in a list

Rows and groups are lists in a strict order of their labels. Such a list is what stands in front of
a label, what stands at the label, and what stands behind it, so two of them that agree on all other
labels differ at one place at most (`changedTo_of_filter_eq`). The groups of all other labels agree
when their rows do.
-/

set_option autoImplicit false

namespace EmbeddingLatency

section ChangedTo

variable {β κ ω : Type}

/-- Both lists hold the same items in the same order, but for one label: where the first list has
    `old` of this label, the second one has `new`. -/
structure ChangedTo (labelOf : β → κ) (label : κ) (old new : Option β) (items items' : List β) :
    Prop where
  split : ∃ before after, items = before ++ old.toList ++ after ∧
    items' = before ++ new.toList ++ after ∧ ∀ item ∈ before ++ after, labelOf item ≠ label
  old : ∀ item ∈ old, labelOf item = label
  new : ∀ item ∈ new, labelOf item = label

theorem ChangedTo.eq {labelOf : β → κ} {label : κ} {items items' : List β}
    (unchanged : ChangedTo labelOf label none none items items') : items' = items := by
  obtain ⟨before, after, rfl, rfl, -⟩ := unchanged.split
  rfl

variable [LinearOrder ω] [DecidableEq κ] {labelOf : β → κ} {order : κ → ω}

/-- An ordered list around a label. -/
theorem before_at_after (injective : Function.Injective order) (label : κ) {items : List β}
    (sorted : (items.map labelOf).Pairwise fun a b => order a < order b) :
    items = items.filter (fun item => order (labelOf item) < order label) ++
      (items.find? fun item => labelOf item = label).toList ++
      items.filter (fun item => order label < order (labelOf item)) := by
  induction items with
  | nil => rfl
  | cons a rest ih =>
    obtain ⟨first, sorted⟩ := List.pairwise_cons.mp sorted
    have ih := ih sorted
    have first : ∀ b ∈ rest, order (labelOf a) < order (labelOf b) :=
      fun b member => first _ (List.mem_map_of_mem member)
    rcases lt_trichotomy (order (labelOf a)) (order label) with less | same | greater
    · have different : labelOf a ≠ label := fun same => less.ne (congrArg order same)
      simpa [less, less.not_gt, different] using ih
    · have here : labelOf a = label := injective same
      subst here
      have behind : ∀ b ∈ rest, ¬order (labelOf b) < order (labelOf a) :=
        fun b member => (first b member).not_gt
      have none : (rest.filter fun b => order (labelOf b) < order (labelOf a)) = [] :=
        List.filter_eq_nil_iff.mpr fun b member => by simpa using behind b member
      have all : (rest.filter fun b => order (labelOf a) < order (labelOf b)) = rest :=
        List.filter_eq_self.mpr fun b member => by simpa using first b member
      simp [none, all]
    · have different : labelOf a ≠ label := fun same => greater.ne' (congrArg order same)
      have further : ∀ b ∈ rest, order label < order (labelOf b) :=
        fun b member => greater.trans (first b member)
      have none : (rest.filter fun b => order (labelOf b) < order label) = [] :=
        List.filter_eq_nil_iff.mpr fun b member => by simpa using (further b member).le
      have absent : (rest.find? fun b => labelOf b = label) = Option.none :=
        List.find?_eq_none.mpr fun b member => by
          simpa using fun same => (further b member).ne' (congrArg order same)
      have all : (rest.filter fun b => order label < order (labelOf b)) = rest :=
        List.filter_eq_self.mpr fun b member => by simpa using further b member
      simp [greater, greater.not_gt, different, none, absent, all]

/-- Ordered lists that agree on all other labels differ at one place at most. -/
theorem changedTo_of_filter_eq (injective : Function.Injective order) (label : κ)
    {items items' : List β}
    (sorted : (items.map labelOf).Pairwise fun a b => order a < order b)
    (sorted' : (items'.map labelOf).Pairwise fun a b => order a < order b)
    (others : (items.filter fun item => labelOf item ≠ label) =
      items'.filter fun item => labelOf item ≠ label) :
    ChangedTo labelOf label (items.find? fun item => labelOf item = label)
      (items'.find? fun item => labelOf item = label) items items' := by
  have elsewhere : ∀ (side : κ → Bool), side label = false → ∀ list : List β,
      (list.filter fun item => side (labelOf item)) =
        (list.filter fun item => labelOf item ≠ label).filter fun item => side (labelOf item) := by
    intro side never list
    refine (filter_filter_of_imp (fun item holds => ?_) list).symm
    have different : labelOf item ≠ label := by
      intro same
      simp [same, never] at holds
    exact decide_eq_true different
  have before := elsewhere (fun l => order l < order label) (by simp)
  have after := elsewhere (fun l => order label < order l) (by simp)
  refine ⟨⟨_, _, before_at_after injective label sorted, ?_, ?_⟩, ?_, ?_⟩
  · rw [before items, after items, others, ← before, ← after]
    exact before_at_after injective label sorted'
  · intro item member same
    simp [same] at member
  · intro item found
    simpa using List.find?_some found
  · intro item found
    simpa using List.find?_some found

end ChangedTo

section Groups

variable {α κ : Type} [Add α] [Div α] [Scalar α] [DecidableEq κ]
  {labelOf : Comparison α → κ} {rows rows' : List (Comparison α)}

/-- The group of a label, if it has any rows. -/
def groupAt? (labelOf : Comparison α → κ) (rows : List (Comparison α)) (label : κ) :
    Option (Group κ α) :=
  match rows.filter fun row => labelOf row = label with
  | [] => none
  | members => some ⟨label, .ofRows members⟩

theorem groupsOf_eq_filterMap (labels : List κ) :
    groupsOf labels labelOf rows = labels.filterMap (groupAt? labelOf rows) := rfl

theorem label_of_groupAt? {label : κ} {g : Group κ α}
    (found : groupAt? labelOf rows label = some g) :
    g.label = label := by
  unfold groupAt? at found
  split at found
  · cases found
  · cases found
    rfl

theorem groupAt?_congr {label other : κ} (different : other ≠ label)
    (same : (rows.filter fun row => labelOf row ≠ label) =
      rows'.filter fun row => labelOf row ≠ label) :
    groupAt? labelOf rows other = groupAt? labelOf rows' other := by
  have members : ∀ list : List (Comparison α), (list.filter fun row => labelOf row = other) =
      (list.filter fun row => labelOf row ≠ label).filter fun row => labelOf row = other := by
    intro list
    refine (filter_filter_of_imp (fun row here => ?_) list).symm
    simpa [of_decide_eq_true here] using different
  rw [groupAt?, groupAt?, members, same, ← members]

/-- The groups of the other labels are those that the other labels have. -/
theorem filter_groupsOf (labels : List κ) (label : κ) :
    (groupsOf labels labelOf rows).filter (fun g => g.label ≠ label) =
      (labels.filter (· ≠ label)).filterMap (groupAt? labelOf rows) := by
  rw [groupsOf_eq_filterMap, List.filter_filterMap, List.filterMap_filter]
  refine List.filterMap_congr fun other _ => ?_
  cases found : groupAt? labelOf rows other with
  | none => simp
  | some g => by_cases same : other = label <;> simp [Option.filter, label_of_groupAt? found, same]

/-- The other groups stay when the rows of their labels and these labels do. -/
theorem filter_groupsOf_congr {labels labels' : List κ} {label : κ}
    (sameLabels : labels.filter (· ≠ label) = labels'.filter (· ≠ label))
    (sameRows : (rows.filter fun row => labelOf row ≠ label) =
      rows'.filter fun row => labelOf row ≠ label) :
    (groupsOf labels labelOf rows).filter (fun g => g.label ≠ label) =
      (groupsOf labels' labelOf rows').filter fun g => g.label ≠ label := by
  rw [filter_groupsOf, filter_groupsOf, ← sameLabels]
  refine List.filterMap_congr fun other member => groupAt?_congr ?_ sameRows
  simpa using (List.mem_filter.mp member).2

omit [Add α] [Div α] [Scalar α] in
/-- The other size labels that are gone through stay when the rows of these labels do. -/
theorem filter_unknownLabels_congr {label : String}
    (sameRows : (rows.filter fun row => row.key.sizeLabel ≠ label) =
      rows'.filter fun row => row.key.sizeLabel ≠ label) :
    (unknownLabels rows).filter (· ≠ label) = (unknownLabels rows').filter (· ≠ label) := by
  have occurs : ∀ list : List (Comparison α), ∀ other, other ≠ label →
      (other ∈ list.map (·.key.sizeLabel) ↔
        other ∈ (list.filter fun row => row.key.sizeLabel ≠ label).map (·.key.sizeLabel)) := by
    intro list other different
    simp only [List.mem_map, List.mem_filter, decide_eq_true_eq]
    constructor
    · rintro ⟨row, member, rfl⟩
      exact ⟨row, ⟨member, different⟩, rfl⟩
    · rintro ⟨row, ⟨member, _⟩, rfl⟩
      exact ⟨row, member, rfl⟩
  refine ((increasing_unknownLabels rows).filter _).eq_of_mem_iff
    ((increasing_unknownLabels rows').filter _) fun other => ?_
  simp only [List.mem_filter, mem_unknownLabels_iff, decide_eq_true_eq]
  refine and_congr_left fun different => and_congr_left fun _ => ?_
  rw [occurs rows other different, sameRows, ← occurs rows' other different]

end Groups

end EmbeddingLatency
