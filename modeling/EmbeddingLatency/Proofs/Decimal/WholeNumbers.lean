import EmbeddingLatency.Decimal.Rounding
import EmbeddingLatency.Proofs.Decimal.Operations

/-!
# Whole numbers as doubles

Natural numbers below `2 ^ 53` are doubles (`exact_ofNat`), and so are the whole part of any double
(`exact_floor`) and the nearest whole number (`exact_roundHalfAway`). A double that is not whole is
a unit away from every whole number (`exists_unit`, `add_unit_le`).
-/

set_option autoImplicit false

namespace EmbeddingLatency.Decimal

open Float.Model.UnpackedFloat (Sign)

theorem ofBits_normal {m : Nat} {e : Nat} (low : 2 ^ 52 ≤ m) (high : m < 2 ^ 53)
    (bounded : e < 2046) :
    Binary.ofBits (e * Nat.pow 2 52 + m) = .finite false m (e + leastExponent) := by
  have powers : Nat.pow 2 52 = 2 ^ 52 ∧ Nat.pow 2 11 = 2048 ∧ Nat.pow 2 63 = 2 ^ 63 :=
    ⟨rfl, rfl, rfl⟩
  have field : (e * 2 ^ 52 + m) / 2 ^ 52 = e + 1 := by omega
  have fraction : (e * 2 ^ 52 + m) % 2 ^ 52 = m - 2 ^ 52 := by omega
  have sign : (e * 2 ^ 52 + m) / 2 ^ 63 % 2 = 0 := by omega
  have exponent : (e + 1) % 2048 = e + 1 := Nat.mod_eq_of_lt (by omega)
  unfold Binary.ofBits
  simp only [powers, field, fraction, sign, exponent]
  rw [if_neg (by omega), if_neg (by omega), Nat.sub_add_cancel low]
  congr 1
  push_cast
  ring

/-- The leading bit of a natural number, taken to the front. -/
theorem front_bounds {n : Nat} (positive : 0 < n) (short : n < 2 ^ 53) :
    2 ^ 52 ≤ n * 2 ^ (52 - n.log2) ∧ n * 2 ^ (52 - n.log2) < 2 ^ 53 := by
  have bits : n.log2 < 53 := (Nat.log2_lt (by omega)).mpr short
  have whole : n.log2 + (52 - n.log2) = 52 := by omega
  constructor
  · calc
      2 ^ 52 = 2 ^ n.log2 * 2 ^ (52 - n.log2) := by rw [← Nat.pow_add, whole]
      _ ≤ n * 2 ^ (52 - n.log2) := Nat.mul_le_mul_right _ (Nat.log2_self_le (by omega))
  · calc
      n * 2 ^ (52 - n.log2) < 2 ^ (n.log2 + 1) * 2 ^ (52 - n.log2) :=
        Nat.mul_lt_mul_of_pos_right Nat.lt_log2_self (Nat.two_pow_pos _)
      _ = 2 ^ 53 := by rw [← Nat.pow_add, Nat.add_right_comm, whole]

/-- The bits of a natural number that needs no rounding. -/
theorem nearestBits_of_pos {n : Nat} (positive : 0 < n) (short : n < 2 ^ 53) :
    nearestBits n 1 = (n.log2 + 1022) * Nat.pow 2 52 + n * 2 ^ (52 - n.log2) := by
  obtain ⟨low, high⟩ := front_bounds positive short
  have bits : n.log2 < 53 := (Nat.log2_lt (by omega)).mpr short
  have guess : ((n.log2 : Int) - (Nat.log2 1 : Int) - 52) = -((52 - n.log2 : Nat) : Int) := by
    have one : Nat.log2 1 = 0 := by decide
    rw [one]
    omega
  have up : (-(-((52 - n.log2 : Nat) : Int))).toNat = 52 - n.log2 := by omega
  have down : (-((52 - n.log2 : Nat) : Int)).toNat = 0 := by omega
  have above : max (-((52 - n.log2 : Nat) : Int)) leastExponent = -((52 - n.log2 : Nat) : Int) := by
    unfold leastExponent
    omega
  have field : (-((52 - n.log2 : Nat) : Int) - leastExponent).toNat = n.log2 + 1022 := by
    unfold leastExponent
    omega
  have kept : roundDiv (n * 2 ^ (52 - n.log2)) 1 = n * 2 ^ (52 - n.log2) := by
    have whole := roundDiv_mul (n * 2 ^ (52 - n.log2)) 1 Nat.one_pos
    rwa [Nat.mul_one] at whole
  have powers :
      Nat.pow 2 52 = 2 ^ 52 ∧ Nat.pow 2 (52 - n.log2) = 2 ^ (52 - n.log2) ∧ Nat.pow 2 0 = 1 :=
    ⟨rfl, rfl, rfl⟩
  unfold nearestBits
  simp only [guess, up, down, powers, Nat.mul_one]
  rw [if_neg (by omega), if_neg (by omega), above, field, up, down, powers.2.1, powers.2.2,
    Nat.mul_one, kept]
  apply Nat.min_eq_left
  show _ ≤ 2047 * 2 ^ 52
  omega

/-- Natural numbers in 53 bits are doubles. -/
theorem exact_ofNat {n : Nat} (short : n < 2 ^ 53) : exact (ofNat n) = some n := by
  show exact (Float.ofBits (UInt64.ofNat (nearestBits n 1))) = _
  apply exact_ofBits
  rcases Nat.eq_zero_or_pos n with rfl | positive
  · simp [nearestBits, Binary.ofBits, Binary.exact]
  · obtain ⟨low, high⟩ := front_bounds positive short
    have bits : n.log2 < 53 := (Nat.log2_lt (by omega)).mpr short
    have word : (UInt64.ofNat (nearestBits n 1)).toNat = nearestBits n 1 := by
      apply UInt64.toNat_ofNat_of_lt
      rw [nearestBits_of_pos positive short]
      show (n.log2 + 1022) * 2 ^ 52 + n * 2 ^ (52 - n.log2) < 2 ^ 64
      omega
    have unit :
        (2 : ℚ) ^ (52 - n.log2) * 2 ^ (((n.log2 + 1022 : Nat) : Int) + leastExponent) = 1 := by
      rw [pow_mul_zpow]
      have exponent :
          ((52 - n.log2 : Nat) : Int) + (((n.log2 + 1022 : Nat) : Int) + leastExponent) = 0 := by
        unfold leastExponent
        omega
      rw [exponent, zpow_zero]
    rw [word, nearestBits_of_pos positive short, ofBits_normal low high (by omega)]
    simp only [Binary.exact]
    push_cast at unit ⊢
    rw [mul_assoc, unit]
    simp

/-- What is known of a double with a sign; zero may have either one. -/
theorem signed_parts {x : Float} {s : Sign} {v : ℚ} (known : exact x = some (signed s v))
    (nonneg : 0 ≤ v) :
    ∃ negative m q, Binary.ofFloat x = .finite negative m q ∧ Canonical m q ∧ v = m * 2 ^ q ∧
      (negative = isNegative s ∨ m = 0) := by
  unfold exact at known
  cases parts : Binary.ofFloat x with
  | nan => rw [parts] at known; cases known
  | infinite negative => rw [parts] at known; cases known
  | finite negative m q =>
    rw [parts] at known
    have value : (if negative then -1 else 1) * ((m : ℚ) * 2 ^ q) = signed s v :=
      Option.some.inj known
    refine ⟨negative, m, q, rfl, (canonical_ofBits parts).1, ?_⟩
    have magnitude : 0 ≤ (m : ℚ) * 2 ^ q := mul_nonneg (Nat.cast_nonneg m) (two_zpow_pos q).le
    have zero_of (none : (m : ℚ) * 2 ^ q = 0) : m = 0 := by
      have power := (two_zpow_pos q).ne'
      exact_mod_cast (mul_eq_zero.mp none).resolve_right power
    -- The signs differ in the first and the last case, and then both sides are zero.
    cases negative <;> cases s <;>
      simp only [signed, isNegative, if_true, Bool.false_eq_true, if_false, one_mul, neg_one_mul]
        at value ⊢
    · exact ⟨by linarith, .inr (zero_of (by linarith))⟩
    · exact ⟨value.symm, .inl trivial⟩
    · exact ⟨by linarith, .inl trivial⟩
    · exact ⟨by linarith, .inr (zero_of (by linarith))⟩

/-- What is known of a double that is not negative. -/
theorem nonneg_parts {x : Float} {v : ℚ} (known : exact x = some v) (nonneg : 0 ≤ v) :
    ∃ negative m q, Binary.ofFloat x = .finite negative m q ∧ Canonical m q ∧ v = m * 2 ^ q ∧
      (negative = true → m = 0) := by
  rw [← signed_positive v] at known
  obtain ⟨negative, m, q, parts, canonical, value, sign⟩ := signed_parts known nonneg
  refine ⟨negative, m, q, parts, canonical, value, ?_⟩
  rintro rfl
  exact sign.resolve_left (by decide)

/-- A natural number with a sign. -/
theorem exact_nearest_one (negative : Bool) {n : Nat} (short : n < 2 ^ 53) :
    exact (nearest negative n 1) = some ((if negative then -1 else 1) * (n : ℚ)) := by
  cases negative with
  | false => exact (exact_ofNat short).trans (congrArg some (one_mul _).symm)
  | true => exact (exact_neg (exact_ofNat short)).trans (congrArg some (neg_one_mul _).symm)

/-- A power of two that is a natural number. -/
theorem zpow_of_nonneg {q : Int} (whole : 0 ≤ q) : (2 : ℚ) ^ q = (2 ^ q.toNat : Nat) := by
  rw [Nat.cast_pow, ← zpow_natCast, Int.toNat_of_nonneg whole]
  norm_num

/-- A power of two that is a fraction. -/
theorem mul_zpow_of_neg (m : Nat) {q : Int} (fraction : ¬0 ≤ q) :
    (m : ℚ) * 2 ^ q * (2 ^ (-q).toNat : Nat) = m := by
  rw [← zpow_of_nonneg (by omega), mul_assoc, ← zpow_add₀ (by norm_num), add_neg_cancel,
    zpow_zero, mul_one]

/-- The whole part of a double is a double. -/
theorem exact_floor {x : Float} {v : ℚ} (known : exact x = some v) (nonneg : 0 ≤ v) :
    ∃ k : Nat, exact (floor x) = some (k : ℚ) ∧ (k : ℚ) ≤ v ∧ v < k + 1 := by
  obtain ⟨negative, m, q, parts, ⟨short, -⟩, value, zero⟩ := nonneg_parts known nonneg
  unfold floor roundWith
  simp only [parts]
  split
  case isTrue whole =>
    have power := zpow_of_nonneg whole
    refine ⟨m * 2 ^ q.toNat, ?_, ?_, ?_⟩
    all_goals
      push_cast at power ⊢
      rw [← power]
      simp [known, value]
  case isFalse fraction =>
    have unit : 0 < 2 ^ (-q).toNat := Nat.two_pow_pos _
    have cast : (0 : ℚ) < (2 ^ (-q).toNat : Nat) := by exact_mod_cast unit
    have quotient : v = (m : ℚ) / (2 ^ (-q).toNat : Nat) := by
      rw [eq_div_iff cast.ne', value, mul_zpow_of_neg m fraction]
    refine ⟨m / 2 ^ (-q).toNat, ?_, ?_, ?_⟩
    · cases negative with
      | false => exact exact_ofNat (Nat.lt_of_le_of_lt (Nat.div_le_self _ _) short)
      | true =>
        obtain rfl : m = 0 := zero rfl
        have none : (0 + Nat.pow 2 (-q).toNat - 1) / Nat.pow 2 (-q).toNat = 0 := by
          show (0 + 2 ^ (-q).toNat - 1) / 2 ^ (-q).toNat = 0
          exact Nat.div_eq_of_lt (by omega)
        have minus : exact (nearest true 0 1) = some 0 := by decide +kernel
        simp only [if_true, none, minus, Nat.zero_div, Nat.cast_zero]
    · rw [quotient]
      exact Nat.cast_div_le
    · rw [quotient, div_lt_iff₀ cast]
      have below := Nat.lt_mul_div_succ m unit
      rw [Nat.mul_comm] at below
      exact_mod_cast below

/-- The natural number nearest to a quotient. -/
theorem nearest_half_up {num den : Nat} (positive : 0 < den) {v : ℚ} (quotient : v * den = num) :
    (((2 * num + den) / (2 * den) : Nat) : ℚ) - 1 / 2 ≤ v ∧
      v < ((2 * num + den) / (2 * den) : Nat) + 1 / 2 := by
  have cast : (0 : ℚ) < den := by exact_mod_cast positive
  have least : (((2 * num + den) / (2 * den) : Nat) : ℚ) * (2 * den) ≤ 2 * num + den := by
    exact_mod_cast Nat.div_mul_le_self (2 * num + den) (2 * den)
  have beyond : (2 * num + den : ℚ) < 2 * den * (((2 * num + den) / (2 * den) : Nat) + 1) := by
    exact_mod_cast Nat.lt_mul_div_succ (2 * num + den) (by omega)
  constructor
  · refine le_of_mul_le_mul_right ?_ cast
    rw [quotient]
    linarith
  · refine lt_of_mul_lt_mul_right ?_ cast.le
    rw [quotient]
    linarith

/-- The nearest whole number of a double is a double with the same sign; a half goes
    away from zero. -/
theorem exact_roundHalfAway {x : Float} {s : Sign} {v : ℚ} (known : exact x = some (signed s v))
    (nonneg : 0 ≤ v) :
    ∃ n : Nat, exact (roundHalfAway x) = some (signed s n) ∧ n - 1 / 2 ≤ v ∧ v < n + 1 / 2 := by
  obtain ⟨negative, m, q, parts, ⟨short, -⟩, value, sign⟩ := signed_parts known nonneg
  unfold roundHalfAway roundWith
  simp only [parts]
  split
  case isTrue whole =>
    have natural : v = (m * 2 ^ q.toNat : Nat) := by rw [value, zpow_of_nonneg whole, Nat.cast_mul]
    refine ⟨m * 2 ^ q.toNat, by rw [← natural, known], ?_, ?_⟩
    all_goals
      rw [← natural]
      linarith
  case isFalse fraction =>
    have quotient : v * (2 ^ (-q).toNat : Nat) = m := by rw [value, mul_zpow_of_neg m fraction]
    show ∃ n : Nat,
      exact (nearest negative ((2 * m + 2 ^ (-q).toNat) / (2 * 2 ^ (-q).toNat)) 1) = _ ∧ _
    have unit : 0 < 2 ^ (-q).toNat := Nat.two_pow_pos _
    generalize 2 ^ (-q).toNat = den at unit quotient
    refine ⟨(2 * m + den) / (2 * den), ?_, nearest_half_up unit quotient⟩
    have small : (2 * m + den) / (2 * den) < 2 ^ 53 := by
      rw [Nat.div_lt_iff_lt_mul (by omega)]
      nlinarith
    rw [exact_nearest_one negative small]
    rcases sign with rfl | rfl
    · rfl
    · have none : (2 * 0 + den) / (2 * den) = 0 := Nat.div_eq_of_lt (by omega)
      rw [none, Nat.cast_zero, mul_zero, signed, mul_zero]

/-- The unit of a double below `2 ^ 53`, which is at most one. -/
theorem exists_unit {x : Float} {v : ℚ} (known : exact x = some v) (nonneg : 0 ≤ v)
    (short : v < 2 ^ 53) :
    ∃ (j : Nat) (p : Int), p ≤ 0 ∧ leastExponent ≤ p ∧ v = j * 2 ^ p ∧ v < 2 ^ 53 * 2 ^ p := by
  obtain ⟨-, m, q, -, ⟨high, least, -⟩, value, -⟩ := nonneg_parts known nonneg
  rcases le_total q 0 with fine | coarse
  · have significand : (m : ℚ) < 2 ^ 53 := by exact_mod_cast high
    refine ⟨m, q, fine, least, value, ?_⟩
    rw [value]
    exact mul_lt_mul_of_pos_right significand (two_zpow_pos q)
  · have power : (2 : ℚ) ^ q.toNat = 2 ^ q := by
      rw [← zpow_natCast, Int.toNat_of_nonneg coarse]
    refine ⟨m * 2 ^ q.toNat, 0, Int.le_refl 0, by decide, ?_, by simpa using short⟩
    push_cast
    rw [power, mul_one, value]

/-- A number of units of one at most that is below a whole number is a unit below it. -/
theorem add_unit_le {j n : Nat} {p : Int} (fine : p ≤ 0) (below : (j : ℚ) * 2 ^ p < n) :
    (j : ℚ) * 2 ^ p + 2 ^ p ≤ n := by
  have positive := two_zpow_pos p
  have whole := mul_two_pow_toNat n fine
  rw [zpow_zero, mul_one] at whole
  rw [← whole] at below ⊢
  have order : j < n * 2 ^ (0 - p).toNat := by
    exact_mod_cast lt_of_mul_lt_mul_right below positive.le
  have units : (j : ℚ) + 1 ≤ (n * 2 ^ (0 - p).toNat : Nat) := by exact_mod_cast order
  calc
    (j : ℚ) * 2 ^ p + 2 ^ p = (j + 1) * 2 ^ p := by ring
    _ ≤ (n * 2 ^ (0 - p).toNat : Nat) * 2 ^ p := mul_le_mul_of_nonneg_right units positive.le

end EmbeddingLatency.Decimal
