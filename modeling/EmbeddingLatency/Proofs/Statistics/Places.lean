import EmbeddingLatency.Statistics
import Mathlib.Algebra.Order.Field.Rat
import Mathlib.Algebra.Order.Field.Basic
import Mathlib.Tactic.Linarith

/-!
# Statistics and the places they read

Fractions are samples without rounding. Over them each percentile lies between the samples at two
places of the sorted list, so percentiles are compared by comparing places.

`median?`, `interpolated?` and `upperQuantile?` are the statistics once more, as readings that fail
where a place does not exist. They never fail, over any type of samples.
-/

set_option autoImplicit false

namespace EmbeddingLatency

/-- Fractions as samples: exact arithmetic in the usual order. -/
instance : Scalar ℚ where
  count n := n
  sumStart := 0
  sorts x y := decide (x ≤ y)
  isPositive x := decide (0 < x)

namespace Samples

section Reads

variable {α : Type} [Scalar α] {sorted : List α} {place : Nat}

/-- The sample in front of a place, if there is one. -/
def before? (sorted : List α) : Nat → Option α
  | 0 => none
  | place + 1 => sorted[place]?

theorem atPlace_eq_getElem (within : place < sorted.length) :
    atPlace sorted place = sorted[place] := by
  rw [atPlace, List.getElem?_eq_getElem within, Option.getD_some]

theorem getElem?_eq_some_atPlace (within : place < sorted.length) :
    sorted[place]? = some (atPlace sorted place) := by
  rw [atPlace_eq_getElem within, List.getElem?_eq_getElem within]

theorem before?_eq_some_atPlace (positive : 0 < place) (within : place ≤ sorted.length) :
    before? sorted place = some (atPlace sorted (place - 1)) := by
  obtain ⟨place, rfl⟩ := Nat.exists_eq_succ_of_ne_zero positive.ne'
  exact getElem?_eq_some_atPlace within

/-- What is sorted by a relation stands in it place by place. -/
theorem rel_atPlace {R : α → α → Prop} (refl : ∀ x, R x x) (ordered : sorted.Pairwise R)
    {low high : Nat} (le : low ≤ high) (within : high < sorted.length) :
    R (atPlace sorted low) (atPlace sorted high) := by
  rcases le.eq_or_lt with rfl | less
  · exact refl _
  · rw [atPlace_eq_getElem within, atPlace_eq_getElem (less.trans within)]
    exact List.pairwise_iff_getElem.mp ordered low high (by omega) within less

theorem length_sorted (samples : List α) : (Samples.sorted samples).length = samples.length :=
  List.length_mergeSort samples

/-- A property of the sorted samples at all places is one of the samples. -/
theorem forall_mem_of_places {samples : List α} {p : α → Prop}
    (all : ∀ place < (Samples.sorted samples).length, p (atPlace (Samples.sorted samples) place)) :
    ∀ x ∈ samples, p x := by
  intro x member
  obtain ⟨place, within, rfl⟩ := List.mem_iff_getElem.mp
    (List.mem_mergeSort.mpr member : x ∈ Samples.sorted samples)
  rw [← atPlace_eq_getElem within]
  exact all place within

theorem atPlace_mem {samples : List α} (within : place < (Samples.sorted samples).length) :
    atPlace (Samples.sorted samples) place ∈ samples :=
  List.mem_mergeSort.mp (List.mem_of_getElem? (getElem?_eq_some_atPlace within))

variable [Add α] [Div α]

/-- The middle of sorted samples, if all places that it takes exist. -/
def median? (sorted : List α) : Option α :=
  if sorted.length = 0 then some (Scalar.count 0)
  else if sorted.length % 2 = 1 then sorted[sorted.length / 2]?
  else do
    let low ← before? sorted (sorted.length / 2)
    let high ← sorted[sorted.length / 2]?
    return (low + high) / Scalar.count 2

theorem median?_eq_some (sorted : List α) : median? sorted = some (median sorted) := by
  simp only [median?, median]
  split_ifs with none odd
  · rfl
  · exact getElem?_eq_some_atPlace (by omega)
  · rw [before?_eq_some_atPlace (by omega) (by omega), getElem?_eq_some_atPlace (by omega)]
    rfl

variable [Sub α] [Mul α]

/-- The value at a cut point, if both neighbours exist. -/
def interpolated? (sorted : List α) (i parts : Nat) : Option α := do
  let cut := Cut.of sorted.length i parts
  let weight : α := Scalar.count cut.weight
  let whole : α := Scalar.count parts
  let low ← before? sorted cut.place
  let high ← sorted[cut.place]?
  return (low * (whole - weight) + high * weight) / whole

theorem upperQuantile_of_few {samples : List α} {i parts : Nat} (few : samples.length < parts) :
    upperQuantile (Samples.sorted samples) i parts =
      atPlace (Samples.sorted samples) ((Samples.sorted samples).length - 1) := by
  rw [upperQuantile, if_neg (by rw [length_sorted]; omega)]

/-- The value at a cut point or the largest sample, if the places that it takes exist. -/
def upperQuantile? (sorted : List α) (i parts : Nat) : Option α :=
  if parts ≤ sorted.length then interpolated? sorted i parts
  else if sorted.length = 0 then some (Scalar.count 0)
  else before? sorted sorted.length

theorem interpolated?_eq_some {i parts : Nat} (first : 0 < i) (last : i < parts)
    (enough : parts ≤ sorted.length) :
    interpolated? sorted i parts = some (interpolated sorted i parts) := by
  obtain ⟨positive, within⟩ := Cut.place_bounds first last enough
  rw [interpolated?, before?_eq_some_atPlace (by omega) (by omega),
    getElem?_eq_some_atPlace (by omega)]
  rfl

theorem upperQuantile?_eq_some {i parts : Nat} (first : 0 < i) (last : i < parts)
    (sorted : List α) : upperQuantile? sorted i parts = some (upperQuantile sorted i parts) := by
  unfold upperQuantile? upperQuantile
  split_ifs with enough none
  · exact interpolated?_eq_some first last enough
  · rw [atPlace, List.getElem?_eq_none (by omega), Option.getD_none]
  · exact before?_eq_some_atPlace (by omega) le_rfl

/-- All three percentiles read only places that exist. -/
structure ReadsExist (samples : List α) : Prop where
  p50 : median? (Samples.sorted samples) = some (p50 samples)
  p95 : upperQuantile? (Samples.sorted samples) 19 p95Parts = some (p95 samples)
  p99 : upperQuantile? (Samples.sorted samples) 99 p99Parts = some (p99 samples)

theorem readsExist (samples : List α) : ReadsExist samples where
  p50 := median?_eq_some _
  p95 := upperQuantile?_eq_some (by decide) (by decide) _
  p99 := upperQuantile?_eq_some (by decide) (by decide) _

end Reads

theorem Cut.weight_lt {n i parts : Nat} (some : 0 < parts) : (Cut.of n i parts).weight < parts := by
  have rest : (Cut.of n i parts).weight = i * (n + 1) % parts := by
    rw [Nat.mod_eq_sub_div_mul]
    rfl
  rw [rest]
  exact Nat.mod_lt _ some

section Exact

variable {samples sorted : List ℚ} {low high low' high' : Nat} {x y : ℚ}

theorem pairwise_sorted (samples : List ℚ) : (Samples.sorted samples).Pairwise (· ≤ ·) := by
  have ordered : (Samples.sorted samples).Pairwise fun x y => decide (x ≤ y) = true := by
    refine List.pairwise_mergeSort ?_ ?_ samples
    · intro a b c
      simpa [Scalar.sorts] using le_trans
    · intro a b
      simpa [Scalar.sorts] using le_total a b
  exact ordered.imp of_decide_eq_true

theorem atPlace_le_atPlace (ordered : sorted.Pairwise (· ≤ ·)) (le : low ≤ high)
    (within : high < sorted.length) : atPlace sorted low ≤ atPlace sorted high :=
  rel_atPlace le_refl ordered le within

/-- A value between the samples at two places. -/
structure Between (sorted : List ℚ) (low high : Nat) (x : ℚ) : Prop where
  above : atPlace sorted low ≤ x
  below : x ≤ atPlace sorted high
  places : low ≤ high
  within : high < sorted.length

theorem Between.of_eq (place : Nat) (within : place < sorted.length)
    (same : x = atPlace sorted place) : Between sorted place place x :=
  ⟨same.ge, same.le, le_rfl, within⟩

/-- Values are in order when their places are. -/
theorem Between.le (ordered : sorted.Pairwise (· ≤ ·)) (first : Between sorted low high x)
    (second : Between sorted low' high' y) (inOrder : high ≤ low') : x ≤ y :=
  calc x ≤ atPlace sorted high := first.below
    _ ≤ atPlace sorted low' :=
      atPlace_le_atPlace ordered inOrder (second.places.trans_lt second.within)
    _ ≤ y := second.above

/-- A weighted mean of two neighbours lies between them. -/
theorem Between.weighted (ordered : sorted.Pairwise (· ≤ ·)) {weight whole : Nat}
    (weighs : weight < whole) (le : low ≤ high) (within : high < sorted.length) :
    Between sorted low high
      ((atPlace sorted low * ((whole : ℚ) - weight) + atPlace sorted high * weight) / whole) := by
  have neighbours := atPlace_le_atPlace ordered le within
  have positive : (0 : ℚ) < whole := by exact_mod_cast Nat.zero_lt_of_lt weighs
  have part : (weight : ℚ) ≤ whole := by exact_mod_cast weighs.le
  have part' : (0 : ℚ) ≤ weight := Nat.cast_nonneg weight
  refine ⟨?_, ?_, le, within⟩
  · rw [le_div_iff₀ positive]
    have := mul_le_mul_of_nonneg_right neighbours part'
    linarith
  · rw [div_le_iff₀ positive]
    have := mul_le_mul_of_nonneg_right neighbours (sub_nonneg.mpr part)
    linarith

/-- The median lies between the two samples in the middle, which may be one and the same. -/
theorem between_median (ordered : sorted.Pairwise (· ≤ ·)) (nonempty : 0 < sorted.length) :
    Between sorted ((sorted.length - 1) / 2) (sorted.length / 2) (median sorted) := by
  simp only [median, nonempty.ne', if_false]
  split_ifs with odd
  · have middle : (sorted.length - 1) / 2 = sorted.length / 2 := by omega
    rw [middle]
    exact .of_eq _ (by omega) rfl
  · have middle : (sorted.length - 1) / 2 = sorted.length / 2 - 1 := by omega
    have places : sorted.length / 2 - 1 ≤ sorted.length / 2 := Nat.sub_le _ _
    have halves := Between.weighted ordered Nat.one_lt_two places (by omega)
    rw [middle]
    have two : (2 : ℚ) - 1 = 1 := by norm_num
    simpa [Scalar.count, two] using halves

/-- The places of the two samples between which an upper percentile of `n` samples lies. -/
def upperPlaces (n i parts : Nat) : Nat × Nat :=
  if parts ≤ n then ((Cut.of n i parts).place - 1, (Cut.of n i parts).place) else (n - 1, n - 1)

theorem between_upperQuantile (ordered : sorted.Pairwise (· ≤ ·)) (i parts : Nat) (first : 0 < i)
    (last : i < parts) (nonempty : 0 < sorted.length) :
    Between sorted (upperPlaces sorted.length i parts).1 (upperPlaces sorted.length i parts).2
      (upperQuantile sorted i parts) := by
  unfold upperPlaces upperQuantile
  split_ifs with enough
  · have bounds := Cut.place_bounds first last enough
    exact Between.weighted ordered (Cut.weight_lt (by omega)) (by omega) (by omega)
  · exact .of_eq _ (by omega) rfl

end Exact

end Samples

end EmbeddingLatency
