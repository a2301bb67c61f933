import EmbeddingLatency.Proofs.Onnx.UnmaskedTokens
import Mathlib.Analysis.SpecialFunctions.Log.Basic
import Mathlib.Order.Bounds.Basic

/-!
# The formula of sparse pooling

Sparse pooling is described as a maximum over all tokens, in which a damped value is multiplied by
the mask. It is computed otherwise: masked tokens are left out, and a running maximum starts from
zero. In every linear order the two are the same (`isGreatest_component`), because a damped value is
not below zero, which is what a masked token counts. The rest is read off the formula, which does
not depend on the order of the tokens and grows with each of its values.
-/

set_option autoImplicit false

namespace EmbeddingLatency.Onnx

/-- The numbers of a linear order, with some damping. -/
@[reducible]
def Activation.ofOrder {α : Type} [LinearOrder α] [Zero α] (log1p : α → α) : Activation α where
  zero := 0
  larger := max
  log1p := log1p

section Columns

variable {α β ι : Type}

/-- Gathering rows column by column is gathering in each column. -/
theorem getElem?_foldl_zipWith {f : β → α → β} {places : List ι} {row : ι → List α} {cell : ι → α}
    {v : Nat} (cells : ∀ j ∈ places, (row j)[v]? = some (cell j)) {start : List β} {a : β}
    (first : start[v]? = some a) :
    ((places.map row).foldl (fun gathered row => gathered.zipWith f row) start)[v]? =
      some (places.foldl (fun gathered j => f gathered (cell j)) a) := by
  induction places generalizing start a with
  | nil => exact first
  | cons j places ih =>
    rw [List.map_cons, List.foldl_cons, List.foldl_cons]
    refine ih (fun k member => cells k (List.mem_cons_of_mem _ member)) ?_
    rw [List.getElem?_zipWith, first, cells j List.mem_cons_self]

/-- A running maximum is the greatest of its start and all that it has met. -/
theorem isGreatest_foldl_max [LinearOrder α] (value : ι → α) (places : List ι) (start : α) :
    IsGreatest (insert start {y | ∃ j ∈ places, value j = y})
      (places.foldl (fun most j => max most (value j)) start) := by
  induction places generalizing start with
  | nil => simp
  | cons j places ih =>
    obtain ⟨met, bound⟩ := ih (max start (value j))
    have above := bound (Set.mem_insert _ _)
    rw [List.foldl_cons]
    constructor
    · rcases met with here | ⟨k, member, same⟩
      · rcases max_choice start (value j) with isStart | isValue
        · exact .inl (here.trans isStart)
        · exact .inr ⟨j, List.mem_cons_self, (here.trans isValue).symm⟩
      · exact .inr ⟨k, List.mem_cons_of_mem _ member, same⟩
    · rintro y (rfl | ⟨k, member, rfl⟩)
      · exact (le_max_left _ _).trans above
      · rcases List.mem_cons.mp member with rfl | member
        · exact (le_max_right _ _).trans above
        · exact bound (.inr ⟨k, member, rfl⟩)

end Columns

namespace MaskedRows

variable {α : Type} {seqLen width : Nat}

theorem place_lt (j : Fin seqLen) (v : Fin width) : j * width + v < seqLen * width := by
  have inside : (j + 1) * width ≤ seqLen * width := Nat.mul_le_mul_right _ j.isLt
  rw [Nat.succ_mul] at inside
  omega

/-- The number of a token in a column. -/
def cell (t : MaskedRows α seqLen width) (j : Fin seqLen) (v : Fin width) : α :=
  t.cells.get ⟨j * width + v, by rw [t.cells_length]; exact place_lt j v⟩

theorem getElem?_row (t : MaskedRows α seqLen width) (j : Fin seqLen) (v : Fin width) :
    (t.row j)[v.val]? = some (t.cell j v) := by
  rw [row, List.getElem?_take_of_lt v.isLt, List.getElem?_drop]
  exact List.getElem?_eq_getElem _

section Sparse

variable [LinearOrder α] [Zero α] (log1p : α → α)

/-- The vector of a text, as sparse pooling computes it. -/
def sparseVector (t : MaskedRows α seqLen width) : List α :=
  @sparsePool α (.ofOrder log1p) width (keptRows (batches width t.cells) t.mask)

/-- The damped positive part of a number. -/
def damped (x : α) : α := log1p (max x 0)

theorem damped_nonneg {log1p : α → α} (monotone : MonotoneOn log1p (Set.Ici 0)) (zero : log1p 0 = 0)
    (x : α) : 0 ≤ damped log1p x :=
  calc 0 = log1p 0 := zero.symm
    _ ≤ log1p (max x 0) := monotone Set.self_mem_Ici (le_max_right x 0) (le_max_right x 0)

theorem damped_mono {log1p : α → α} (monotone : MonotoneOn log1p (Set.Ici 0)) {x y : α}
    (le : x ≤ y) :
    damped log1p x ≤ damped log1p y :=
  monotone (le_max_right x 0) (le_max_right y 0) (max_le_max_right 0 le)

/-- A component of the vector: the running maximum over the unmasked tokens. -/
def component (t : MaskedRows α seqLen width) (v : Fin width) : α :=
  ((List.finRange seqLen).filter fun j => t.bit j ≠ 0).foldl
    (fun most j => max most (damped log1p (t.cell j v))) 0

theorem sparseVector_eq (wide : 0 < width) (t : MaskedRows α seqLen width) :
    t.sparseVector log1p = (List.finRange width).map (t.component log1p) := by
  rw [sparseVector, keptRows_eq wide]
  refine List.ext_getElem? fun i => ?_
  by_cases column : i < width
  · have first : (List.replicate width (0 : α))[i]? = some 0 := by
      rw [List.getElem?_replicate, if_pos column]
    have gathered := getElem?_foldl_zipWith (f := fun p x => max p (damped log1p x))
      (fun j (_ : j ∈ (List.finRange seqLen).filter fun j => t.bit j ≠ 0) =>
        t.getElem?_row j ⟨i, column⟩) first
    refine gathered.trans ?_
    rw [List.getElem?_map, List.getElem?_eq_getElem (by simpa using column), List.getElem_finRange]
    rfl
  · have pooled : (@sparsePool α (.ofOrder log1p) width t.unmasked).length = width :=
      length_foldl_zipWith (fun _ => length_of_mem_unmasked) List.length_replicate
    rw [List.getElem?_eq_none (by omega), List.getElem?_eq_none (by simpa using column)]

end Sparse

section Formula

variable [LinearOrder α] [MulZeroOneClass α]

/-- A mask bit as a factor. -/
def factor (bit : Int) : α := if bit = 0 then 0 else 1

/-- What a token counts in a column, by the formula. -/
def counted (log1p : α → α) (t : MaskedRows α seqLen width) (v : Fin width) (j : Fin seqLen) : α :=
  factor (t.bit j) * log1p (max (t.cell j v) 0)

theorem counted_masked {log1p : α → α} {t : MaskedRows α seqLen width} {j : Fin seqLen}
    (masked : t.bit j = 0) (v : Fin width) : t.counted log1p v j = 0 := by
  rw [counted, factor, if_pos masked, zero_mul]

theorem counted_unmasked {log1p : α → α} {t : MaskedRows α seqLen width} {j : Fin seqLen}
    (unmasked : t.bit j ≠ 0) (v : Fin width) : t.counted log1p v j = damped log1p (t.cell j v) := by
  rw [counted, factor, if_neg unmasked, one_mul, damped]

variable {log1p : α → α} (monotone : MonotoneOn log1p (Set.Ici 0)) (zero : log1p 0 = 0)

include monotone zero

theorem counted_nonneg (t : MaskedRows α seqLen width) (v : Fin width) (j : Fin seqLen) :
    0 ≤ t.counted log1p v j := by
  by_cases masked : t.bit j = 0
  · rw [counted_masked masked]
  · rw [counted_unmasked masked]
    exact damped_nonneg monotone zero _

/-- A token counts no less when it is unmasked or its number is raised. -/
theorem counted_mono {t t' : MaskedRows α seqLen width} {v : Fin width} {j : Fin seqLen}
    (unmasked : t.bit j ≠ 0 → t'.bit j ≠ 0) (raised : t.cell j v ≤ t'.cell j v) :
    t.counted log1p v j ≤ t'.counted log1p v j := by
  by_cases masked : t.bit j = 0
  · rw [counted_masked masked]
    exact counted_nonneg monotone zero t' v j
  · rw [counted_unmasked masked, counted_unmasked (unmasked masked)]
    exact damped_mono monotone raised

/-- Each component is the greatest of what the tokens count by the formula. -/
theorem isGreatest_component (long : 0 < seqLen) (t : MaskedRows α seqLen width) (v : Fin width) :
    IsGreatest (Set.range (t.counted log1p v)) (t.component log1p v) := by
  obtain ⟨met, bound⟩ := isGreatest_foldl_max (fun j => damped log1p (t.cell j v))
    ((List.finRange seqLen).filter fun j => t.bit j ≠ 0) 0
  change t.component log1p v ∈ _ at met
  have least : ∀ j, t.counted log1p v j ≤ t.component log1p v := by
    intro j
    by_cases masked : t.bit j = 0
    · rw [counted_masked masked]
      exact bound (Set.mem_insert _ _)
    · rw [counted_unmasked masked]
      exact bound (.inr ⟨j, by simpa using masked, rfl⟩)
  refine ⟨?_, Set.forall_mem_range.mpr least⟩
  rcases met with isZero | ⟨j, member, same⟩
  · -- nothing is above zero, so the first token counts zero, whether it is masked or not
    have first := least ⟨0, long⟩
    rw [isZero] at first ⊢
    exact ⟨⟨0, long⟩, first.antisymm (counted_nonneg monotone zero t v _)⟩
  · have unmasked : t.bit j ≠ 0 := by simpa using member
    exact ⟨j, (counted_unmasked unmasked v).trans same⟩

end Formula

/-- The vector of a text is that of the formula, with what follows from it. -/
structure MaskedMaximum [LinearOrder α] [MulZeroOneClass α] (log1p : α → α)
    (t : MaskedRows α seqLen width) : Prop where
  length : (t.sparseVector log1p).length = width
  greatest : ∀ v : Fin width, ∃ component, (t.sparseVector log1p)[v.val]? = some component ∧
    IsGreatest (Set.range fun j => factor (t.bit j) * log1p (max (t.cell j v) 0)) component
  nonneg : ∀ component ∈ t.sparseVector log1p, 0 ≤ component
  /-- Tokens may change places, together with their mask bits. -/
  rearranged : ∀ (t' : MaskedRows α seqLen width) (place : Equiv.Perm (Fin seqLen)),
    (∀ j, t'.bit j = t.bit (place j)) → (∀ j v, t'.cell j v = t.cell (place j) v) →
      t'.sparseVector log1p = t.sparseVector log1p
  /-- Nothing is lowered by unmasking tokens and raising numbers. -/
  raised : ∀ t' : MaskedRows α seqLen width, (∀ j, t.bit j ≠ 0 → t'.bit j ≠ 0) →
    (∀ j v, t.cell j v ≤ t'.cell j v) →
      List.Forall₂ (· ≤ ·) (t.sparseVector log1p) (t'.sparseVector log1p)

/-- **Sparse pooling is a masked maximum.** Over any linear order and with any damping that grows
    from zero on, each component is the maximum over all tokens of the mask bit times the damped
    positive value. -/
theorem sparse_pooling_is_masked_maximum [LinearOrder α] [MulZeroOneClass α] {log1p : α → α}
    (monotone : MonotoneOn log1p (Set.Ici 0)) (zero : log1p 0 = 0) (long : 0 < seqLen)
    (wide : 0 < width) (t : MaskedRows α seqLen width) : t.MaskedMaximum log1p := by
  have greatest := fun t : MaskedRows α seqLen width => isGreatest_component monotone zero long t
  refine
    { length := by rw [sparseVector_eq log1p wide, List.length_map, List.length_finRange]
      greatest := ?greatest
      nonneg := ?nonneg
      rearranged := ?rearranged
      raised := ?raised }
  case greatest =>
    intro v
    refine ⟨t.component log1p v, ?_, greatest t v⟩
    rw [sparseVector_eq log1p wide, List.getElem?_map, List.getElem?_eq_getElem (by simp),
      List.getElem_finRange]
    rfl
  case nonneg =>
    intro component member
    rw [sparseVector_eq log1p wide] at member
    obtain ⟨v, -, rfl⟩ := List.mem_map.mp member
    obtain ⟨j, same⟩ := (greatest t v).1
    rw [← same]
    exact counted_nonneg monotone zero t v j
  case rearranged =>
    intro t' place bits cells
    rw [sparseVector_eq log1p wide, sparseVector_eq log1p wide]
    refine List.map_congr_left fun v _ => ?_
    have moved : t'.counted log1p v = t.counted log1p v ∘ place := by
      funext j
      simp only [counted, bits, cells, Function.comp_apply]
    have same := greatest t' v
    rw [moved, place.surjective.range_comp] at same
    exact same.unique (greatest t v)
  case raised =>
    intro t' unmasked above
    rw [sparseVector_eq log1p wide, sparseVector_eq log1p wide, List.forall₂_map_left_iff,
      List.forall₂_map_right_iff, List.forall₂_same]
    intro v _
    obtain ⟨j, same⟩ := (greatest t v).1
    calc t.component log1p v = t.counted log1p v j := same.symm
      _ ≤ t'.counted log1p v j := counted_mono monotone zero (unmasked j) (above j v)
      _ ≤ t'.component log1p v := (greatest t' v).2 ⟨j, rfl⟩

/-- Three tokens with scores for two words, the last token being padding. -/
noncomputable def threeTokens : MaskedRows ℝ 3 2 where
  mask := [1, 1, 0]
  cells := [1, -2, 3, 1 / 2, 100, 100]
  mask_length := rfl
  cells_length := rfl

/-- The formula holds of them with the logarithm itself. -/
theorem threeTokens_maximum : threeTokens.MaskedMaximum fun x => Real.log (1 + x) := by
  refine sparse_pooling_is_masked_maximum ?_ ?_ (by decide) (by decide) threeTokens
  · intro x low y _ le
    have positive : 0 < 1 + x := by linarith [Set.mem_Ici.mp low]
    exact Real.log_le_log positive (by linarith)
  · simp

end MaskedRows

end EmbeddingLatency.Onnx
