import EmbeddingLatency.Proofs.Decimal.ExactValues

/-!
# Results of arithmetic are nearest doubles

A result is computed exactly, down to a significand with two more bits: one is worth half a unit,
the other one tells whether anything is left (`Marks`). Both are kept up to date while the
significand is shifted (`Marks.shiftRight`), and rounding by them is off by half a unit at most
(`Marks.rounded`). So whatever is rounded becomes a nearest double (`represents_rounded`).

A nearest double does not pass a number on the grid of doubles (`Nearest.le_of_le`,
`Nearest.ge_of_ge`). A result that is on the grid is therefore exact (`Nearest.eq`).
-/

set_option autoImplicit false

namespace EmbeddingLatency.Decimal

open Float.Model (UnpackedFloat Format totalExponent)
open Float.Model.UnpackedFloat (Accuracy ExtendedMantissa Sign roundWithAccuracy shiftToExponent
  shiftToTargetExponent)

/-- What a significand and its two further bits say of a number. -/
def Marks (em : ExtendedMantissa) (x : ℚ) : Prop :=
  match em.roundBit, em.stickyBit with
  | false, false => x = em.mantissa
  | false, true => (em.mantissa : ℚ) < x ∧ x < em.mantissa + 1 / 2
  | true, false => x = em.mantissa + 1 / 2
  | true, true => (em.mantissa : ℚ) + 1 / 2 < x ∧ x < em.mantissa + 1

/-- A double nearest to a number that is not negative: half a unit away at most, where the unit is
    as small as the number allows. -/
def Nearest (y r : ℚ) : Prop :=
  ∃ (n : Nat) (t : Int), r = n * 2 ^ t ∧ |r - y| ≤ 2 ^ t / 2 ∧ leastExponent ≤ t ∧
    (2 ^ 52 * 2 ^ t ≤ y ∨ t = leastExponent)

section Marks

variable {em : ExtendedMantissa} {x : ℚ}

theorem Marks.le (marks : Marks em x) : (em.mantissa : ℚ) ≤ x := by
  unfold Marks at marks
  split at marks <;> linarith

theorem Marks.shiftRightOne (marks : Marks em x) : Marks em.shiftRightOne (x / 2) := by
  obtain ⟨m, round, sticky⟩ := em
  have halves : (m : ℚ) = 2 * (m / 2 : Nat) + (m % 2 : Nat) := by
    exact_mod_cast (Nat.div_add_mod m 2).symm
  unfold Marks ExtendedMantissa.shiftRightOne at *
  -- The bit that goes out says on which side of the half the number lies.
  rcases Nat.mod_two_eq_zero_or_one m with bit | bit
  all_goals
    rw [bit] at halves
    rw [bit]
    cases round <;> cases sticky <;> simp at marks halves ⊢
    all_goals first
      | linarith
      | exact ⟨by linarith, by linarith⟩

theorem Marks.shiftRight (marks : Marks em x) (k : Nat) : Marks (em >>> k) (x / 2 ^ k) := by
  induction k with
  | zero => simpa [HShiftRight.hShiftRight, Nat.repeat] using marks
  | succ k ih =>
    have step := ih.shiftRightOne
    rwa [div_div, ← pow_succ] at step

theorem mantissa_shiftRight (em : ExtendedMantissa) (k : Nat) :
    (em >>> k).mantissa = em.mantissa / 2 ^ k := by
  induction k with
  | zero => simp [HShiftRight.hShiftRight, Nat.repeat]
  | succ k ih =>
    show (em >>> k).mantissa / 2 = _
    rw [ih, Nat.div_div_eq_div_mul, Nat.pow_succ]

theorem mantissa_ofMantissaAndAccuracy (m : Nat) (accuracy : Accuracy) :
    (ExtendedMantissa.ofMantissaAndAccuracy m accuracy).mantissa = m := by
  rcases accuracy with _ | order
  · rfl
  · cases order <;> rfl

/-- Rounding is off by half a unit at most. -/
theorem Marks.rounded (marks : Marks em x) : |(em.roundedMantissa : ℚ) - x| ≤ 1 / 2 := by
  obtain ⟨m, round, sticky⟩ := em
  rw [abs_le]
  unfold Marks at marks
  cases round <;> cases sticky <;>
    simp only [ExtendedMantissa.roundedMantissa, ExtendedMantissa.accuracy,
      Accuracy.roundToNearestEven] at marks ⊢
  · exact ⟨by linarith, by linarith⟩
  · exact ⟨by linarith, by linarith⟩
  · -- A tie may go either way.
    rcases Nat.mod_two_eq_zero_or_one m with bit | bit <;> rw [bit] <;> push_cast
    · exact ⟨by linarith, by linarith⟩
    · exact ⟨by linarith, by linarith⟩
  · push_cast
    exact ⟨by linarith, by linarith⟩

theorem roundedMantissa_le (em : ExtendedMantissa) : em.roundedMantissa ≤ em.mantissa + 1 := by
  obtain ⟨m, round, sticky⟩ := em
  cases round <;> cases sticky <;>
    simp only [ExtendedMantissa.roundedMantissa, ExtendedMantissa.accuracy,
      Accuracy.roundToNearestEven]
  all_goals omega

theorem le_roundedMantissa (em : ExtendedMantissa) : em.mantissa ≤ em.roundedMantissa := by
  obtain ⟨m, round, sticky⟩ := em
  cases round <;> cases sticky <;>
    simp only [ExtendedMantissa.roundedMantissa, ExtendedMantissa.accuracy,
      Accuracy.roundToNearestEven]
  all_goals omega

end Marks

section Rounding

variable {m : Nat} {q : Int}

/-- The exponent that a significand is shifted to. -/
def roundingExponent (m : Nat) (q : Int) : Int := max (m.log2 + 1 + q - 53) leastExponent

theorem targetExponent_eq (m : Nat) (q : Int) :
    Format.binary64.targetExponent (totalExponent m q) = roundingExponent m q := by
  unfold Format.targetExponent totalExponent roundingExponent leastExponent
  rfl

theorem lt_of_roundingExponent (m : Nat) (q : Int) :
    m / 2 ^ (roundingExponent m q - q).toNat < 2 ^ 53 := by
  have bits : m < 2 ^ (m.log2 + 1) := Nat.lt_log2_self
  have enough : m.log2 + 1 ≤ 53 + (roundingExponent m q - q).toNat := by
    unfold roundingExponent
    omega
  apply Nat.div_lt_of_lt_mul
  calc
    m < 2 ^ (m.log2 + 1) := bits
    _ ≤ 2 ^ (53 + (roundingExponent m q - q).toNat) := Nat.pow_le_pow_right (by decide) enough
    _ = 2 ^ (roundingExponent m q - q).toNat * 2 ^ 53 := by rw [Nat.pow_add, Nat.mul_comm]

/-- Above the least exponent, all 53 bits are used. -/
theorem le_of_roundingExponent (room : q ≤ roundingExponent m q)
    (above : roundingExponent m q ≠ leastExponent) :
    2 ^ 52 ≤ m / 2 ^ (roundingExponent m q - q).toNat := by
  have shift : m.log2 = 52 + (roundingExponent m q - q).toNat := by
    unfold roundingExponent at *
    omega
  have filled : m ≠ 0 := by
    rintro rfl
    rw [Nat.log2_zero] at shift
    omega
  rw [Nat.le_div_iff_mul_le (Nat.two_pow_pos _), ← Nat.pow_add, ← shift]
  exact Nat.log2_self_le filled

theorem roundingExponent_of_lt {n : Nat} {t : Int} (short : n < 2 ^ 53)
    (least : leastExponent ≤ t) :
    (roundingExponent n t - t).toNat = 0 := by
  have bits : n.log2 < 53 := by
    rcases Nat.eq_zero_or_pos n with rfl | positive
    · decide
    · exact (Nat.log2_lt (by omega)).mpr short
  unfold roundingExponent
  omega

/-- The parts of a double without a sign. -/
def finiteParts (s : Sign) (m : Nat) (q : Int) : UnpackedFloat :=
  if none : m = 0 then .zero s else .finite s m q (Nat.pos_of_ne_zero none)

theorem represents_finiteParts (s : Sign) (canonical : Canonical m q)
    (bounded : q ≤ greatestExponent) :
    Represents (finiteParts s m q) ((if isNegative s then -1 else 1) * (m * 2 ^ q)) := by
  unfold finiteParts
  split
  case isTrue none =>
    rw [none]
    simpa using Represents.zero s
  case isFalse => exact .finite s m q _ canonical bounded

/-- What becomes of a rounded significand: rounding up may have made one more bit. -/
theorem represents_carried (s : Sign) {n : Nat} {t : Int} (short : n ≤ 2 ^ 53)
    (least : leastExponent ≤ t) (normal : 2 ^ 52 ≤ n ∨ t = leastExponent)
    (bounded : t < greatestExponent) :
    Represents
      (finiteParts s (n / 2 ^ (roundingExponent n t - t).toNat)
        (t + (roundingExponent n t - t).toNat))
      ((if isNegative s then -1 else 1) * (n * 2 ^ t)) := by
  rcases Nat.lt_or_eq_of_le short with short | rfl
  · rw [roundingExponent_of_lt short least, Nat.pow_zero, Nat.div_one, Int.natCast_zero,
      Int.add_zero]
    exact represents_finiteParts s ⟨short, least, normal⟩ (by omega)
  · have again : (roundingExponent (2 ^ 53) t - t).toNat = 1 := by
      unfold roundingExponent
      rw [Nat.log2_two_pow]
      omega
    have value : ((2 ^ 53 : Nat) : ℚ) * 2 ^ t =
        ((2 ^ 53 / 2 ^ 1 : Nat) : ℚ) * 2 ^ (t + (1 : Nat)) := by
      rw [Nat.cast_one, zpow_add_one₀ (by norm_num)]
      norm_num
      ring
    rw [again, value]
    apply represents_finiteParts
    · exact ⟨by decide, by omega, .inl (by decide)⟩
    · omega

/-- **Rounding gives a nearest double.** The significand is shifted to as many bits as there is room
    for, and rounded by the bits that go out. -/
theorem represents_rounded (s : Sign) {accuracy : Accuracy} {x : ℚ}
    (marks : Marks (.ofMantissaAndAccuracy m accuracy) x) (room : q ≤ roundingExponent m q)
    (bounded : roundingExponent m q < greatestExponent) :
    ∃ n : Nat, |(n : ℚ) - x / 2 ^ (roundingExponent m q - q).toNat| ≤ 1 / 2 ∧
      Represents (roundWithAccuracy Format.binary64 s m q accuracy)
        ((if isNegative s then -1 else 1) * (n * 2 ^ roundingExponent m q)) := by
  have least : leastExponent ≤ roundingExponent m q := le_max_right _ _
  have exponent : q + (roundingExponent m q - q).toNat = roundingExponent m q := by omega
  have shifted := marks.shiftRight (roundingExponent m q - q).toNat
  have rounds : roundWithAccuracy Format.binary64 s m q accuracy =
      let n := (ExtendedMantissa.ofMantissaAndAccuracy m accuracy >>>
        (roundingExponent m q - q).toNat).roundedMantissa
      finiteParts s
        (n / 2 ^ (roundingExponent n (roundingExponent m q) - roundingExponent m q).toNat)
        (roundingExponent m q +
          (roundingExponent n (roundingExponent m q) - roundingExponent m q).toNat) := by
    unfold roundWithAccuracy shiftToTargetExponent shiftToExponent finiteParts
    simp only [targetExponent_eq, exponent, mantissa_shiftRight, mantissa_ofMantissaAndAccuracy]
  refine ⟨_, shifted.rounded, ?_⟩
  rw [rounds]
  have front : (ExtendedMantissa.ofMantissaAndAccuracy m accuracy >>>
      (roundingExponent m q - q).toNat).mantissa = m / 2 ^ (roundingExponent m q - q).toNat := by
    rw [mantissa_shiftRight, mantissa_ofMantissaAndAccuracy]
  have atMost := roundedMantissa_le (ExtendedMantissa.ofMantissaAndAccuracy m accuracy >>>
    (roundingExponent m q - q).toNat)
  have atLeast := le_roundedMantissa (ExtendedMantissa.ofMantissaAndAccuracy m accuracy >>>
    (roundingExponent m q - q).toNat)
  rw [front] at atMost atLeast
  apply represents_carried s _ least _ bounded
  · exact Nat.le_trans atMost (lt_of_roundingExponent m q)
  · by_cases above : roundingExponent m q = leastExponent
    · exact .inr above
    · exact .inl (Nat.le_trans (le_of_roundingExponent room above) atLeast)

end Rounding

section Nearest

theorem two_zpow_pos (t : Int) : (0 : ℚ) < 2 ^ t := zpow_pos (by norm_num) t

/-- A number times a power of two. -/
theorem pow_mul_zpow (k : Nat) (q : Int) : (2 : ℚ) ^ k * 2 ^ q = 2 ^ (k + q) := by
  rw [← zpow_natCast, ← zpow_add₀ (by norm_num)]

/-- A number of units is a number of smaller units. -/
theorem mul_two_pow_toNat (n : Nat) {q p : Int} (finer : q ≤ p) :
    ((n * 2 ^ (p - q).toNat : Nat) : ℚ) * 2 ^ q = n * 2 ^ p := by
  have exponent : ((p - q).toNat : Int) + q = p := by omega
  push_cast
  rw [mul_assoc, pow_mul_zpow, exponent]

/-- A multiple of a power of two is one of every smaller power. -/
theorem exists_multiple {j t e : Int} (finer : t ≤ e) : ∃ i : Int, (j : ℚ) * 2 ^ e = i * 2 ^ t := by
  have exponent : ((e - t).toNat : Int) + t = e := by omega
  refine ⟨j * 2 ^ (e - t).toNat, ?_⟩
  push_cast
  rw [mul_assoc, pow_mul_zpow, exponent]

variable {y r : ℚ}

/-- The unit of a nearest double is at least as fine as that of any grid the number fits in. -/
theorem finer_unit {t e : Int} (unit : 2 ^ 52 * 2 ^ t ≤ y ∨ t = leastExponent)
    (least : leastExponent ≤ e) (fits : y < 2 ^ 53 * 2 ^ e) : t ≤ e := by
  rcases unit with small | rfl
  · have less : (2 : ℚ) ^ t < 2 ^ (e + 1) := by
      rw [zpow_add_one₀ (by norm_num)]
      linarith
    have order := (zpow_lt_zpow_iff_right₀ (by norm_num : (1 : ℚ) < 2)).mp less
    omega
  · exact least

/-- A nearest double does not fall below a number on the grid of doubles. -/
theorem Nearest.ge_of_ge (nearest : Nearest y r) {j e : Int} (least : leastExponent ≤ e)
    (fits : y < 2 ^ 53 * 2 ^ e) (above : (j : ℚ) * 2 ^ e ≤ y) : (j : ℚ) * 2 ^ e ≤ r := by
  obtain ⟨n, t, rfl, near, -, unit⟩ := nearest
  have positive := two_zpow_pos t
  obtain ⟨i, grid⟩ := exists_multiple (j := j) (finer_unit unit least fits)
  rw [grid] at above ⊢
  by_contra below
  have apart : (n : ℚ) + 1 ≤ i := by
    have less : (n : ℚ) < i := lt_of_mul_lt_mul_right (not_le.mp below) positive.le
    have next : (n : Int) + 1 ≤ i := by exact_mod_cast less
    exact_mod_cast next
  have far : ((n : ℚ) + 1) * 2 ^ t ≤ i * 2 ^ t := mul_le_mul_of_nonneg_right apart positive.le
  have close := (abs_le.mp near).1
  linarith

/-- A nearest double does not rise above a number on the grid of doubles. -/
theorem Nearest.le_of_le (nearest : Nearest y r) {j e : Int} (least : leastExponent ≤ e)
    (fits : y < 2 ^ 53 * 2 ^ e) (below : y ≤ (j : ℚ) * 2 ^ e) : r ≤ (j : ℚ) * 2 ^ e := by
  obtain ⟨n, t, rfl, near, -, unit⟩ := nearest
  have positive := two_zpow_pos t
  obtain ⟨i, grid⟩ := exists_multiple (j := j) (finer_unit unit least fits)
  rw [grid] at below ⊢
  by_contra above
  have apart : (i : ℚ) + 1 ≤ n := by
    have less : (i : ℚ) < n := lt_of_mul_lt_mul_right (not_le.mp above) positive.le
    have next : i + 1 ≤ (n : Int) := by exact_mod_cast less
    exact_mod_cast next
  have far : ((i : ℚ) + 1) * 2 ^ t ≤ n * 2 ^ t := mul_le_mul_of_nonneg_right apart positive.le
  have close := (abs_le.mp near).2
  linarith

/-- A number on the grid of doubles is its own nearest double. -/
theorem Nearest.eq (nearest : Nearest y r) {j e : Int} (least : leastExponent ≤ e)
    (fits : y < 2 ^ 53 * 2 ^ e) (grid : y = (j : ℚ) * 2 ^ e) : r = y := by
  apply le_antisymm
  · rw [grid]
    exact nearest.le_of_le least fits grid.le
  · rw [grid]
    exact nearest.ge_of_ge least fits grid.ge

/-- A nearest double is off by a `2 ^ 53`-th of the number at most, unless the number is tiny. -/
theorem Nearest.error (nearest : Nearest y r) (normal : (2 : ℚ) ^ 52 * 2 ^ leastExponent ≤ y) :
    |r - y| ≤ y / 2 ^ 53 := by
  obtain ⟨n, t, -, near, -, unit⟩ := nearest
  have bits : (2 : ℚ) ^ 52 * 2 ^ t ≤ y := by
    rcases unit with large | rfl
    · exact large
    · exact normal
  calc
    |r - y| ≤ 2 ^ t / 2 := near
    _ = 2 ^ 52 * 2 ^ t / 2 ^ 53 := by ring
    _ ≤ y / 2 ^ 53 := by gcongr

/-- How far a number has to be below a limit for its nearest double to be below it, too. -/
theorem Nearest.lt_of_add_lt (nearest : Nearest y r) {limit : ℚ} (one : 1 ≤ limit)
    (room : y + y / 2 ^ 53 < limit) : r < limit := by
  rcases le_total y (1 / 2) with small | large
  · have half : r ≤ (1 : Int) * 2 ^ (-1 : Int) := by
      apply nearest.le_of_le (by decide)
      · exact lt_of_le_of_lt small (by norm_num)
      · exact small.trans (by norm_num)
    norm_num at half
    linarith
  · have tiny : (2 : ℚ) ^ 52 * 2 ^ leastExponent ≤ 1 / 2 := by
      rw [pow_mul_zpow]
      calc
        (2 : ℚ) ^ (((52 : Nat) : Int) + leastExponent) ≤ 2 ^ (-1 : Int) :=
          zpow_le_zpow_right₀ (by norm_num) (by decide)
        _ = 1 / 2 := by norm_num
    have close := (abs_le.mp (nearest.error (tiny.trans large))).2
    linarith

theorem nearest_zero : Nearest 0 0 := by
  have positive := two_zpow_pos leastExponent
  refine ⟨0, leastExponent, by simp, ?_, le_refl _, .inr rfl⟩
  rw [sub_zero, abs_zero]
  linarith

theorem nearest_self {m : Nat} {q : Int} (canonical : Canonical m q) :
    Nearest ((m : ℚ) * 2 ^ q) (m * 2 ^ q) := by
  have positive := two_zpow_pos q
  refine ⟨m, q, rfl, ?_, canonical.2.1, canonical.2.2.imp_left fun normal => ?_⟩
  · rw [sub_self, abs_zero]
    linarith
  · have cast : (2 : ℚ) ^ 52 ≤ m := by exact_mod_cast normal
    exact mul_le_mul_of_nonneg_right cast positive.le

/-- What is rounded is a nearest double of the number. -/
theorem nearest_rounded {m : Nat} {q : Int} {accuracy : Accuracy} {x : ℚ}
    (marks : Marks (.ofMantissaAndAccuracy m accuracy) x) (room : q ≤ roundingExponent m q)
    {e : Int} (above : leastExponent ≤ e) (below : e < greatestExponent)
    (fits : x * 2 ^ q < 2 ^ 53 * 2 ^ e) :
    ∃ r, Nearest (x * 2 ^ q) r ∧
      Represents (roundWithAccuracy Format.binary64 .positive m q accuracy) r := by
  have least : leastExponent ≤ roundingExponent m q := le_max_right _ _
  have split : (2 : ℚ) ^ roundingExponent m q = 2 ^ (roundingExponent m q - q).toNat * 2 ^ q := by
    rw [pow_mul_zpow]
    congr 1
    omega
  have scale : (0 : ℚ) < 2 ^ (roundingExponent m q - q).toNat := by positivity
  have whole : x * 2 ^ q =
      x / 2 ^ (roundingExponent m q - q).toNat * 2 ^ roundingExponent m q := by
    rw [split]
    field_simp
  have unit : 2 ^ 52 * 2 ^ roundingExponent m q ≤ x * 2 ^ q ∨
      roundingExponent m q = leastExponent := by
    by_cases above : roundingExponent m q = leastExponent
    · exact .inr above
    · left
      have filled : (2 : ℚ) ^ 52 ≤ (m / 2 ^ (roundingExponent m q - q).toNat : Nat) := by
        exact_mod_cast le_of_roundingExponent room above
      have cut : ((m / 2 ^ (roundingExponent m q - q).toNat : Nat) : ℚ) ≤
          m / 2 ^ (roundingExponent m q - q).toNat := by
        exact_mod_cast Nat.cast_div_le
      have front : (m : ℚ) ≤ x := by
        simpa [mantissa_ofMantissaAndAccuracy] using marks.le
      rw [whole]
      apply mul_le_mul_of_nonneg_right _ (two_zpow_pos _).le
      calc
        (2 : ℚ) ^ 52 ≤ m / 2 ^ (roundingExponent m q - q).toNat := filled.trans cut
        _ ≤ x / 2 ^ (roundingExponent m q - q).toNat := by gcongr
  have bounded : roundingExponent m q < greatestExponent :=
    lt_of_le_of_lt (finer_unit unit above fits) below
  obtain ⟨n, near, represents⟩ := represents_rounded .positive marks room bounded
  refine ⟨n * 2 ^ roundingExponent m q, ⟨n, _, rfl, ?_, least, unit⟩, ?_⟩
  · have positive := two_zpow_pos (roundingExponent m q)
    rw [whole, ← sub_mul, abs_mul, abs_of_pos positive]
    calc
      _ ≤ 1 / 2 * (2 : ℚ) ^ roundingExponent m q := mul_le_mul_of_nonneg_right near positive.le
      _ = 2 ^ roundingExponent m q / 2 := by ring
  · simpa [isNegative] using represents

end Nearest

end EmbeddingLatency.Decimal
