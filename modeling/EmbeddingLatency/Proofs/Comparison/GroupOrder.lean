import EmbeddingLatency.Proofs.Comparison.Groups
import EmbeddingLatency.Proofs.Comparison.Table

/-!
# The order of groups

Groups stand in the order of their labels: query sizes from short to long, size labels by their
place and those without one alphabetically behind them. Rows are ordered by the place of their size
label first, so the rows of a label with a place stand together, and going through these labels goes
through the rows.
-/

set_option autoImplicit false

namespace EmbeddingLatency

section Lists

variable {β κ : Type}

/-- A weaker test in front of a test does nothing. -/
theorem filter_filter_of_imp {p q : β → Bool} (weaker : ∀ b, p b = true → q b = true)
    (items : List β) : (items.filter q).filter p = items.filter p := by
  rw [List.filter_filter]
  refine List.filter_congr fun b _ => ?_
  cases holds : p b with
  | true => rw [weaker b holds, Bool.and_self]
  | false => rw [Bool.false_and]

/-- Where what holds of an item holds of all items in front of it, the items of which it holds come
    first. -/
theorem filter_append_filter_not {p : β → Bool} {items : List β}
    (initial : items.Pairwise fun a b => p b = true → p a = true) :
    items.filter p ++ items.filter (!p ·) = items := by
  induction items with
  | nil => rfl
  | cons a rest ih =>
    obtain ⟨first, others⟩ := List.pairwise_cons.mp initial
    cases holds : p a with
    | true => simp [holds, ih others]
    | false =>
      have never : ∀ b ∈ rest, p b = false := by
        intro b member
        rw [← Bool.not_eq_true]
        exact fun later => by simp [first b member later] at holds
      have none : rest.filter p = [] := List.filter_eq_nil_iff.mpr fun b member => by
        simp [never b member]
      have all : rest.filter (!p ·) = rest := List.filter_eq_self.mpr fun b member => by
        simp [never b member]
      simp [holds, none, all]

/-- Items in the order of their labels are gone through by going through the labels. -/
theorem flatMap_filter_label [DecidableEq κ] (labelOf : β → κ) (place : κ → Nat) {labels : List κ}
    {items : List β} (inOrder : labels.Pairwise fun a b => place a < place b)
    (sorted : items.Pairwise fun a b => place (labelOf a) ≤ place (labelOf b))
    (listed : ∀ item ∈ items, labelOf item ∈ labels) :
    labels.flatMap (fun label => items.filter fun item => labelOf item = label) = items := by
  induction labels generalizing items with
  | nil => exact (List.eq_nil_iff_forall_not_mem.mpr fun item member =>
      absurd (listed item member) List.not_mem_nil).symm
  | cons label labels ih =>
    obtain ⟨first, later⟩ := List.pairwise_cons.mp inOrder
    let here : β → Bool := fun item => labelOf item = label
    have initial : items.Pairwise fun a b => here b = true → here a = true := by
      refine sorted.imp_of_mem ?_
      intro a b member _ le same
      have same : labelOf b = label := of_decide_eq_true same
      rcases List.mem_cons.mp (listed a member) with equal | further
      · exact decide_eq_true equal
      · have := first _ further
        rw [same] at le
        omega
    have others : ∀ other ∈ labels, (items.filter fun item => labelOf item = other) =
        (items.filter (!here ·)).filter fun item => labelOf item = other := by
      intro other member
      have different : other ≠ label := fun same => (first other member).ne (by rw [same])
      refine (filter_filter_of_imp (fun item same => ?_) items).symm
      simpa [here, of_decide_eq_true same] using different
    have listed' : ∀ item ∈ items.filter (!here ·), labelOf item ∈ labels := by
      intro item member
      obtain ⟨member, elsewhere⟩ := List.mem_filter.mp member
      have different : labelOf item ≠ label := by simpa [here] using elsewhere
      exact (List.mem_cons.mp (listed item member)).resolve_left different
    rw [List.flatMap_cons, List.flatMap_congr others, ih later (sorted.filter _) listed']
    exact filter_append_filter_not initial

end Lists

/-- What size labels are ordered by: their place, and the label itself where places agree. -/
def sizeOrder (label : String) : Nat ×ₗ String := toLex (sizePlace label, label)

theorem sizeOrder_injective : Function.Injective sizeOrder := by
  intro label label' same
  exact (Prod.mk.inj (toLex.injective same)).2

theorem sizeOrder_lt_of_place {label label' : String} (less : sizePlace label < sizePlace label') :
    sizeOrder label < sizeOrder label' :=
  Prod.Lex.toLex_lt_toLex.mpr (.inl less)

/-- The table of places is in order. -/
theorem increasing_sizePlaces :
    (sizePlaces.map (·.1)).Pairwise fun a b => sizePlace a < sizePlace b := by
  have places : (sizePlaces.map (·.1)).map sizePlace = sizePlaces.map (·.2) := by decide
  have increasing : (sizePlaces.map (·.2)).Pairwise (· < ·) := by decide
  rw [← places, List.pairwise_map] at increasing
  exact increasing

section Groups

variable {α : Type}

theorem increasing_unknownLabels (rows : List (Comparison α)) :
    (unknownLabels rows).Pairwise (· < ·) := by
  have nodup : (unknownLabels rows).Nodup :=
    (List.mergeSort_perm _ _).nodup_iff.mpr (nodup_distinct _)
  have sorted : (unknownLabels rows).Pairwise fun a b => decide (a ≤ b) = true := by
    refine List.pairwise_mergeSort ?_ ?_ _
    · intro a b c
      simpa using le_trans
    · intro a b
      simpa using le_total a b
  refine (sorted.and nodup).imp ?_
  rintro a b ⟨le, different⟩
  exact lt_of_le_of_ne (of_decide_eq_true le) different

/-- Size labels are gone through in their order. -/
theorem increasing_sizeLabels (rows : List (Comparison α)) :
    (sizePlaces.map (·.1) ++ unknownLabels rows).Pairwise
      fun a b => sizeOrder a < sizeOrder b := by
  refine List.pairwise_append.mpr ⟨increasing_sizePlaces.imp sizeOrder_lt_of_place, ?_, ?_⟩
  · refine (increasing_unknownLabels rows).imp_of_mem ?_
    intro a b first second less
    have unlisted := ((mem_unknownLabels_iff rows a).mp first).2
    have unlisted' := ((mem_unknownLabels_iff rows b).mp second).2
    exact Prod.Lex.toLex_lt_toLex.mpr
      (.inr ⟨by rw [sizePlace_of_unknown unlisted, sizePlace_of_unknown unlisted'], less⟩)
  · intro a listed b unlisted
    exact sizeOrder_lt_of_place (sizePlace_known_lt_unknown ((isKnownSize_iff a).mpr listed)
      ((mem_unknownLabels_iff rows b).mp unlisted).2)

variable [Add α] [Div α] [Scalar α]

theorem increasing_labels_groupsBySize (rows : List (Comparison α)) :
    ((groupsBySize rows).map (·.label)).Pairwise fun a b => sizeOrder a < sizeOrder b := by
  rw [groupsBySize, labels_groupsOf]
  exact (increasing_sizeLabels rows).filter _

theorem increasing_labels_groupsByQuery (rows : List (Comparison α)) :
    ((groupsByQuery rows).map (·.label)).Pairwise fun a b => a.rank < b.rank := by
  rw [labels_groupsByQuery]
  exact List.Pairwise.filter _ (by decide)

end Groups

end EmbeddingLatency
