import EmbeddingLatency.Decimal.Numeral
import EmbeddingLatency.Proofs.Statistics.Places
import Mathlib.Data.List.Forall2

/-!
# Cut points

A cut point lies between two neighbours among the sorted samples. `Cut.Safe` says of its place and
its weight what the division leaves, so that neither neighbour is missing, however close the number
of parts comes to the number of samples. From one cut point to the next either the place stays and
the weight grows, or the second neighbour of the one is not behind the first of the other.

Raising samples raises the sample at each place of the sorted list (`atPlace_sorted_mono`): at most
as many samples as before are below a given number, and the sample at a place is at most the number
exactly if more samples than the place says are (`atPlace_le_iff`).
-/

set_option autoImplicit false

namespace EmbeddingLatency.Samples

section Places

/-- A result, if a word of 64 bits holds it. -/
def word? (n : Nat) : Option Nat := if n ≤ Decimal.maxWord then some n else none

/-- Where a cut point lies, calculated in words: without a result where one of them is too large for
    a word or would be below zero. -/
def Cut.inWords? (n i parts : Nat) : Option Cut := do
  let count ← word? (n + 1)
  let position ← word? (i * count)
  let place := position / parts
  let below ← word? (place * parts)
  if below ≤ position then return ⟨place, position - below⟩ else none

/-- The `i`-th of the cut points that divide `n` samples into `parts` groups has both neighbours,
    and the second one weighs less than a whole. -/
structure Cut.Safe (n i parts : Nat) : Prop where
  place_pos : 1 ≤ (Cut.of n i parts).place
  place_le : (Cut.of n i parts).place ≤ n - 1
  weight_lt : (Cut.of n i parts).weight < parts
  /-- Nothing is lost in the weight, so its difference is none below zero. -/
  position : (Cut.of n i parts).place * parts + (Cut.of n i parts).weight = i * (n + 1)
  /-- Words are enough exactly if they hold the position. -/
  inWords : Cut.inWords? n i parts = some (Cut.of n i parts) ↔ i * (n + 1) ≤ Decimal.maxWord

variable {n i i' parts : Nat}

theorem Cut.place_mul_add_weight (n i parts : Nat) :
    (Cut.of n i parts).place * parts + (Cut.of n i parts).weight = i * (n + 1) :=
  Nat.add_sub_of_le (Nat.div_mul_le_self _ _)

theorem Cut.inWords?_eq_some_iff (first : 0 < i) :
    Cut.inWords? n i parts = some (Cut.of n i parts) ↔ i * (n + 1) ≤ Decimal.maxWord := by
  have below : i * (n + 1) / parts * parts ≤ i * (n + 1) := Nat.div_mul_le_self _ _
  by_cases fits : i * (n + 1) ≤ Decimal.maxWord
  · have counted : n + 1 ≤ Decimal.maxWord := (Nat.le_mul_of_pos_left _ first).trans fits
    refine iff_of_true ?_ fits
    simp only [Cut.inWords?, word?, if_pos counted, if_pos fits, if_pos (below.trans fits),
      if_pos below, Option.bind_eq_bind, Option.bind_some]
    rfl
  · refine iff_of_false ?_ fits
    by_cases counted : n + 1 ≤ Decimal.maxWord
    · simp only [Cut.inWords?, word?, if_pos counted, if_neg fits, Option.bind_eq_bind,
        Option.bind_some, Option.bind_none, reduceCtorEq, not_false_eq_true]
    · simp only [Cut.inWords?, word?, if_neg counted, Option.bind_eq_bind, Option.bind_none,
        reduceCtorEq, not_false_eq_true]

theorem Cut.safe (first : 0 < i) (last : i < parts) (enough : parts ≤ n) : Cut.Safe n i parts where
  place_pos := (Cut.place_bounds first last enough).1
  place_le := (Cut.place_bounds first last enough).2
  weight_lt := Cut.weight_lt (first.trans last)
  position := Cut.place_mul_add_weight n i parts
  inWords := Cut.inWords?_eq_some_iff first

theorem Cut.place_mono (le : i ≤ i') : (Cut.of n i parts).place ≤ (Cut.of n i' parts).place :=
  Nat.div_le_div_right (Nat.mul_le_mul_right _ le)

/-- At the same place the later cut point weighs the second neighbour more. -/
theorem Cut.weight_mono (le : i ≤ i')
    (same : (Cut.of n i parts).place = (Cut.of n i' parts).place) :
    (Cut.of n i parts).weight ≤ (Cut.of n i' parts).weight := by
  have position := Cut.place_mul_add_weight n i parts
  have position' := Cut.place_mul_add_weight n i' parts
  have later : i * (n + 1) ≤ i' * (n + 1) := Nat.mul_le_mul_right _ le
  rw [same] at position
  omega

end Places

section Raised

variable {sorted samples raised : List ℚ} {place : Nat} {y : ℚ}

/-- The sample at a place is at most `y` exactly if more samples than the place says are. -/
theorem atPlace_le_iff (ordered : sorted.Pairwise (· ≤ ·)) (within : place < sorted.length) :
    atPlace sorted place ≤ y ↔ place < sorted.countP (· ≤ y) := by
  constructor
  · intro le
    have front : (sorted.take (place + 1)).countP (· ≤ y) = place + 1 := by
      rw [List.countP_eq_length.mpr, List.length_take, Nat.min_eq_left within]
      intro x member
      obtain ⟨earlier, before, rfl⟩ := List.mem_take_iff_getElem.mp member
      have atEarlier := atPlace_le_atPlace ordered (show earlier ≤ place by omega) within
      rw [atPlace_eq_getElem (by omega)] at atEarlier
      exact decide_eq_true (atEarlier.trans le)
    have all := (List.take_sublist (place + 1) sorted).countP_le (p := (· ≤ y))
    omega
  · intro many
    by_contra above
    have back : (sorted.drop place).countP (· ≤ y) = 0 := by
      rw [List.countP_eq_zero]
      intro x member
      obtain ⟨more, inside, rfl⟩ := List.mem_drop_iff_getElem.mp member
      have atLater := atPlace_le_atPlace ordered (Nat.le_add_right place more) (by omega)
      rw [atPlace_eq_getElem (by omega : place + more < sorted.length)] at atLater
      have := (not_le.mp above).trans_le atLater
      simpa using this
    have front := (sorted.take place).countP_le_length (p := (· ≤ y))
    have split := congrArg (List.countP (· ≤ y)) (List.take_append_drop place sorted)
    rw [List.countP_append, back] at split
    rw [List.length_take] at front
    omega

theorem countP_le_of_raised (raises : List.Forall₂ (· ≤ ·) samples raised) :
    raised.countP (· ≤ y) ≤ samples.countP (· ≤ y) := by
  induction raises with
  | nil => exact le_rfl
  | cons le raises ih =>
    rw [List.countP_cons, List.countP_cons]
    split_ifs with high low
    · omega
    · exact absurd (decide_eq_true (le.trans (of_decide_eq_true high))) low
    · omega
    · omega

/-- Raising samples raises the sample at each place. -/
theorem atPlace_sorted_mono (raises : List.Forall₂ (· ≤ ·) samples raised)
    (within : place < samples.length) :
    atPlace (Samples.sorted samples) place ≤ atPlace (Samples.sorted raised) place := by
  have length : (Samples.sorted raised).length = (Samples.sorted samples).length := by
    rw [length_sorted, length_sorted, raises.length_eq]
  have within : place < (Samples.sorted samples).length := by rwa [length_sorted]
  rw [atPlace_le_iff (pairwise_sorted samples) within]
  calc place
      < (Samples.sorted raised).countP (· ≤ atPlace (Samples.sorted raised) place) :=
        (atPlace_le_iff (pairwise_sorted raised) (length ▸ within)).mp le_rfl
    _ = raised.countP (· ≤ atPlace (Samples.sorted raised) place) :=
        (List.mergeSort_perm raised _).countP_eq _
    _ ≤ samples.countP (· ≤ atPlace (Samples.sorted raised) place) := countP_le_of_raised raises
    _ = (Samples.sorted samples).countP (· ≤ atPlace (Samples.sorted raised) place) :=
        ((List.mergeSort_perm samples _).countP_eq _).symm

theorem sorted_eq_self (ordered : samples.Pairwise (· ≤ ·)) : Samples.sorted samples = samples :=
  List.mergeSort_of_pairwise (ordered.imp decide_eq_true)

end Raised

section Values

variable {sorted raised : List ℚ} {i i' parts : Nat}

/-- A weighted mean of two neighbours. -/
def weighted (low high : ℚ) (weight whole : Nat) : ℚ :=
  (low * ((whole : ℚ) - weight) + high * weight) / whole

theorem interpolated_eq (sorted : List ℚ) (i parts : Nat) :
    interpolated sorted i parts =
      weighted (atPlace sorted ((Cut.of sorted.length i parts).place - 1))
        (atPlace sorted (Cut.of sorted.length i parts).place) (Cut.of sorted.length i parts).weight
        parts := rfl

/-- A heavier second neighbour raises the mean. -/
theorem weighted_le_weighted {low high : ℚ} {weight weight' whole : Nat} (le : low ≤ high)
    (heavier : weight ≤ weight') :
    weighted low high weight whole ≤ weighted low high weight' whole := by
  have more : (0 : ℚ) ≤ (high - low) * ((weight' : ℚ) - weight) :=
    mul_nonneg (sub_nonneg.mpr le) (sub_nonneg.mpr (by exact_mod_cast heavier))
  refine div_le_div_of_nonneg_right ?_ (Nat.cast_nonneg whole)
  linarith

/-- Higher neighbours raise the mean. -/
theorem weighted_mono {low high low' high' : ℚ} {weight whole : Nat} (lows : low ≤ low')
    (highs : high ≤ high') (weighs : weight ≤ whole) :
    weighted low high weight whole ≤ weighted low' high' weight whole := by
  have rest : (0 : ℚ) ≤ (whole : ℚ) - weight := sub_nonneg.mpr (by exact_mod_cast weighs)
  refine div_le_div_of_nonneg_right (add_le_add ?_ ?_) (Nat.cast_nonneg whole)
  · exact mul_le_mul_of_nonneg_right lows rest
  · exact mul_le_mul_of_nonneg_right highs (Nat.cast_nonneg weight)

theorem between_interpolated (ordered : sorted.Pairwise (· ≤ ·)) (enough : parts ≤ sorted.length)
    (first : 0 < i) (last : i < parts) :
    Between sorted ((Cut.of sorted.length i parts).place - 1) (Cut.of sorted.length i parts).place
      (interpolated sorted i parts) := by
  have found := between_upperQuantile ordered i parts first last (by omega)
  rwa [upperPlaces, upperQuantile, if_pos enough, if_pos enough] at found

theorem interpolated_mono (ordered : sorted.Pairwise (· ≤ ·)) (enough : parts ≤ sorted.length)
    (first : 0 < i) (le : i ≤ i') (last : i' < parts) :
    interpolated sorted i parts ≤ interpolated sorted i' parts := by
  have here := between_interpolated ordered enough first (le.trans_lt last)
  have there := between_interpolated ordered enough (first.trans_le le) last
  have places : (Cut.of sorted.length i parts).place ≤ (Cut.of sorted.length i' parts).place :=
    Cut.place_mono le
  rcases places.eq_or_lt with same | behind
  · rw [interpolated_eq, interpolated_eq, ← same]
    exact weighted_le_weighted (here.above.trans here.below) (Cut.weight_mono le same)
  · exact here.le ordered there (Nat.le_sub_one_of_lt behind)

theorem interpolated_le_of_raised (ordered : sorted.Pairwise (· ≤ ·))
    (raises : List.Forall₂ (· ≤ ·) sorted raised) (enough : parts ≤ sorted.length) (first : 0 < i)
    (last : i < parts) :
    interpolated sorted i parts ≤ interpolated (Samples.sorted raised) i parts := by
  have length : (Samples.sorted raised).length = sorted.length := by
    rw [length_sorted, raises.length_eq]
  have safe := Cut.safe first last enough
  have raisedAt {place : Nat} (within : place < sorted.length) :
      atPlace sorted place ≤ atPlace (Samples.sorted raised) place := by
    have := atPlace_sorted_mono raises within
    rwa [sorted_eq_self ordered] at this
  have positive := safe.place_pos
  have inside := safe.place_le
  rw [interpolated_eq, interpolated_eq, length]
  exact weighted_mono (raisedAt (by omega)) (raisedAt (by omega)) safe.weight_lt.le

end Values

/-- What holds of the cut points that divide sorted samples into so many parts. -/
structure CutPoints (sorted : List ℚ) (parts : Nat) : Prop where
  safe : ∀ i, 0 < i → i < parts → Cut.Safe sorted.length i parts
  /-- Both neighbours are read where they are, of doubles too. -/
  reads : ∀ doubles : List Float, doubles.length = sorted.length → ∀ i, 0 < i → i < parts →
    interpolated? doubles i parts = some (interpolated doubles i parts)
  between : ∀ i, 0 < i → i < parts →
    Between sorted ((Cut.of sorted.length i parts).place - 1) (Cut.of sorted.length i parts).place
      (interpolated sorted i parts)
  mono : ∀ i i', 0 < i → i ≤ i' → i' < parts →
    interpolated sorted i parts ≤ interpolated sorted i' parts
  /-- No cut point of samples that were raised, each by as much as one likes, and sorted again is
      below that of the samples. -/
  raised : ∀ raised, List.Forall₂ (· ≤ ·) sorted raised → ∀ i, 0 < i → i < parts →
    interpolated sorted i parts ≤ interpolated (Samples.sorted raised) i parts

/-- **Cut points are safe and in order.** If there are as many sorted samples as parts, each cut
    point has both neighbours and in exact arithmetic lies between them, later cut points are not
    below earlier ones, and raising samples lowers none of them. -/
theorem cut_points_in_order {sorted : List ℚ} {parts : Nat} (ordered : sorted.Pairwise (· ≤ ·))
    (enough : parts ≤ sorted.length) : CutPoints sorted parts where
  safe _ first last := Cut.safe first last enough
  reads _ length _ first last := interpolated?_eq_some first last (length ▸ enough)
  between _ first last := between_interpolated ordered enough first last
  mono _ _ first le last := interpolated_mono ordered enough first le last
  raised _ raises _ first last := interpolated_le_of_raised ordered raises enough first last

/-- As many samples as parts, two of them alike: the outer cut points lie in the outermost cells. -/
theorem quartiles_in_order :
    ([1, 2, 2, 10] : List ℚ).Pairwise (· ≤ ·) ∧ 4 ≤ ([1, 2, 2, 10] : List ℚ).length ∧
      (Cut.of 4 1 4).place = 1 ∧ (Cut.of 4 3 4) = ⟨3, 3⟩ ∧
      interpolated ([1, 2, 2, 10] : List ℚ) 3 4 = 8 ∧ CutPoints [1, 2, 2, 10] 4 := by
  have ordered : ([1, 2, 2, 10] : List ℚ).Pairwise (· ≤ ·) := by decide +kernel
  have third : interpolated ([1, 2, 2, 10] : List ℚ) 3 4 = 8 := by decide +kernel
  exact ⟨ordered, by decide, by decide, by decide, third, cut_points_in_order ordered (by decide)⟩

end EmbeddingLatency.Samples
