import EmbeddingLatency.Proofs.Statistics.Places

/-!
# The arrangement of samples

Percentiles are read off the sorted samples, so they depend on the order of measurement only if the
sorted list does. Doubles are sorted by their bits, the two zeros and any not-a-number told apart,
and no two patterns tie (`BitsInOrder.antisymm`). Samples therefore have one arrangement
(`eq_sorted_of_arranges`), whatever order they came in and however they were sorted.

This needs nothing of the arithmetic of doubles, and holds of every representation in which a double
is its bits (`StoredDouble`), be there one not-a-number or all of them.
-/

set_option autoImplicit false

namespace EmbeddingLatency

/-- The total order of doubles, read off their bits. Negative ones, minus zero among them, stand in
    front of all others. Without the sign a larger pattern is farther from zero, so patterns with
    the sign set go backwards. -/
def BitsInOrder (x y : BitVec 64) : Prop :=
  match x.msb, y.msb with
  | false, false => x ≤ y
  | false, true => False
  | true, false => True
  | true, true => y ≤ x

namespace BitsInOrder

variable {x y z : BitVec 64}

theorem refl (x : BitVec 64) : BitsInOrder x x := by
  unfold BitsInOrder
  cases x.msb <;> exact BitVec.le_refl x

/-- Only a pattern itself stands beside it. -/
theorem antisymm (xy : BitsInOrder x y) (yx : BitsInOrder y x) : x = y := by
  unfold BitsInOrder at xy yx
  cases signX : x.msb <;> cases signY : y.msb <;> simp only [signX, signY] at xy yx
  · exact BitVec.le_antisymm xy yx
  · exact BitVec.le_antisymm yx xy

theorem total (x y : BitVec 64) : BitsInOrder x y ∨ BitsInOrder y x := by
  unfold BitsInOrder
  cases x.msb <;> cases y.msb <;> simp only [or_true, true_or]
  · exact BitVec.le_total x y
  · exact BitVec.le_total y x

theorem trans (xy : BitsInOrder x y) (yz : BitsInOrder y z) : BitsInOrder x z := by
  unfold BitsInOrder at xy yz ⊢
  cases signX : x.msb <;> cases signY : y.msb <;> cases signZ : z.msb <;>
    simp only [signX, signY, signZ] at xy yz ⊢
  · exact BitVec.le_trans xy yz
  · exact BitVec.le_trans yz xy

end BitsInOrder

/-- Doubles in some representation: a double is its 64 bits, and samples are sorted by them. -/
class StoredDouble (α : Type) [Scalar α] where
  bits : α → BitVec 64
  eq_of_bits : ∀ x y : α, bits x = bits y → x = y
  sorts_iff : ∀ x y : α, Scalar.sorts x y = true ↔ BitsInOrder (bits x) (bits y)
  bits_zero : bits (Scalar.count 0 : α) = 0

/-- Where doubles are sorted by a number, it is the pattern itself or, behind a sign, as far below
    zero as the rest of the pattern is above. -/
theorem totalOrderKey_eq (x : Float) :
    totalOrderKey x =
      if x.toBits.toBitVec.msb then (2 ^ 63 - 1 - x.toBits.toBitVec.toNat : Int)
      else (x.toBits.toBitVec.toNat : Int) := by
  rw [BitVec.msb_eq_decide]
  simp only [totalOrderKey, Nat.pow_eq, ← UInt64.toNat_toBitVec, decide_eq_true_eq]
  split_ifs <;> omega

theorem totalOrderKey_le_iff (x y : Float) :
    totalOrderKey x ≤ totalOrderKey y ↔ BitsInOrder x.toBits.toBitVec y.toBits.toBitVec := by
  rw [totalOrderKey_eq, totalOrderKey_eq, BitsInOrder]
  cases signX : x.toBits.toBitVec.msb <;> cases signY : y.toBits.toBitVec.msb <;>
    rw [BitVec.msb_eq_decide] at signX signY <;>
    simp only [BitVec.le_def, if_true, if_false, Bool.false_eq_true, iff_true, iff_false,
      decide_eq_true_iff, decide_eq_false_iff_not] at signX signY ⊢ <;> omega

instance : StoredDouble Float where
  bits x := x.toBits.toBitVec
  eq_of_bits := by
    rintro ⟨⟨x, _⟩⟩ ⟨⟨y, _⟩⟩ same
    obtain rfl : x = y := UInt64.toBitVec_inj.mp same
    rfl
  sorts_iff x y := by rw [← totalOrderKey_le_iff]; exact decide_eq_true_iff
  bits_zero := by decide

namespace Samples

open StoredDouble (bits)

variable {α : Type} [Scalar α] [StoredDouble α] {samples arranged : List α}

/-- The samples once more, in the total order. -/
structure Arranges (samples arranged : List α) : Prop where
  perm : arranged.Perm samples
  ordered : arranged.Pairwise fun x y => BitsInOrder (bits x) (bits y)

theorem arranges_sorted (samples : List α) : Arranges samples (sorted samples) where
  perm := List.mergeSort_perm samples _
  ordered := by
    have sorts : (sorted samples).Pairwise fun x y => Scalar.sorts x y = true := by
      refine List.pairwise_mergeSort ?_ ?_ samples
      · intro x y z xy yz
        rw [StoredDouble.sorts_iff] at xy yz ⊢
        exact xy.trans yz
      · intro x y
        rw [Bool.or_eq_true, StoredDouble.sorts_iff, StoredDouble.sorts_iff]
        exact BitsInOrder.total _ _
    exact sorts.imp (StoredDouble.sorts_iff _ _).mp

/-- Samples have one arrangement. -/
theorem eq_sorted_of_arranges (arranges : Arranges samples arranged) :
    arranged = sorted samples := by
  have sorts := arranges_sorted samples
  refine List.Perm.eq_of_pairwise ?_ arranges.ordered sorts.ordered
    (arranges.perm.trans sorts.perm.symm)
  intro x y _ _ xy yx
  exact StoredDouble.eq_of_bits x y (xy.antisymm yx)

/-- What stands for too few samples: the last of them in the total order, or zero without any. -/
structure LargestOrZero (samples : List α) (x : α) : Prop where
  zero : samples = [] → bits x = 0
  largest : samples ≠ [] → x ∈ samples ∧ ∀ y ∈ samples, BitsInOrder (bits y) (bits x)

theorem largestOrZero_last (samples : List α) :
    LargestOrZero samples (atPlace (sorted samples) ((sorted samples).length - 1)) where
  zero := by
    rintro rfl
    simpa [sorted, atPlace] using StoredDouble.bits_zero
  largest := by
    intro nonempty
    have filled : 0 < (sorted samples).length := by
      rw [length_sorted]
      exact List.length_pos_iff.mpr nonempty
    refine ⟨atPlace_mem (by omega), forall_mem_of_places fun place within => ?_⟩
    exact rel_atPlace (R := fun x y => BitsInOrder (bits x) (bits y)) (fun x => .refl _)
      (arranges_sorted samples).ordered (by omega) (by omega)

variable [Add α] [Sub α] [Mul α] [Div α]

/-- What does not depend on the order of measurement. -/
structure SameFigures (samples samples' : List α) : Prop where
  /-- The samples of one list have one arrangement, and that is how the other list is sorted. -/
  arrangement : ∀ arranged, Arranges samples arranged ↔ arranged = sorted samples'
  p50 : bits (p50 samples) = bits (p50 samples')
  p95 : bits (p95 samples) = bits (p95 samples')
  p99 : bits (p99 samples) = bits (p99 samples')
  p95_few : samples.length < 20 → LargestOrZero samples (Samples.p95 samples)
  p99_few : samples.length < 100 → LargestOrZero samples (Samples.p99 samples)

/-- **Percentiles do not depend on the order of measurement.** Doubles in any representation,
    however one calculates with them, are sorted in one way, and so their percentiles are the same
    bits for every order in which they were measured. Upper percentiles of few samples are the last
    of them in the total order of doubles. -/
theorem percentiles_ignore_measurement_order {samples samples' : List α}
    (perm : samples.Perm samples') : SameFigures samples samples' := by
  have sorts := arranges_sorted samples
  have same : sorted samples = sorted samples' :=
    eq_sorted_of_arranges ⟨sorts.perm.trans perm, sorts.ordered⟩
  refine
    { arrangement := ?arrangement
      p50 := by rw [Samples.p50, Samples.p50, same]
      p95 := by rw [Samples.p95, Samples.p95, same]
      p99 := by rw [Samples.p99, Samples.p99, same]
      p95_few := ?p95_few
      p99_few := ?p99_few }
  case arrangement =>
    intro arranged
    rw [← same]
    constructor
    · exact eq_sorted_of_arranges
    · rintro rfl
      exact sorts
  case p95_few =>
    intro few
    have few : samples.length < p95Parts := few
    rw [Samples.p95, upperQuantile_of_few few]
    exact largestOrZero_last samples
  case p99_few =>
    intro few
    have few : samples.length < p99Parts := few
    rw [Samples.p99, upperQuantile_of_few few]
    exact largestOrZero_last samples

/-- Both zeros, an infinity and not-a-number, in two orders. -/
theorem specialDoubles_same_figures :
    SameFigures [(0.0 : Float), -0.0, 0.0 / 0.0, 1.0 / 0.0] [0.0 / 0.0, -0.0, 1.0 / 0.0, 0.0] :=
  percentiles_ignore_measurement_order (by decide)

end Samples

end EmbeddingLatency
