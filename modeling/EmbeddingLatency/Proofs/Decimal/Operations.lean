import EmbeddingLatency.Proofs.Decimal.NearestDoubles

/-!
# Quotients, products and differences of doubles

Each of them is the nearest double of the exact result, as long as that is not too large
(`exact_div`, `exact_mul`, `exact_sub`). They are computed to more bits than a double has room for,
so that there are enough of them to be rounded (`room_quotient`, `room_product`).

Rounding leaves the sign alone. So products and quotients are odd in their first operand
(`mul_neg_parts`, `div_neg_parts`), and what is known of numbers that are not negative holds of all
numbers (`Represents.signed_of_odd`).
-/

set_option autoImplicit false

namespace EmbeddingLatency.Decimal

open Float.Model (UnpackedFloat Format totalExponent)
open Float.Model.UnpackedFloat (Accuracy ExtendedMantissa Sign accuracyOfFraction roundWithAccuracy)

section Signs

/-- The number with a sign in front. -/
def signed (s : Sign) (v : ℚ) : ℚ := (if isNegative s then -1 else 1) * v

theorem signed_positive (v : ℚ) : signed .positive v = v := one_mul v

theorem signed_negative (v : ℚ) : signed .negative v = -v := neg_one_mul v

theorem signed_neg (s : Sign) (v : ℚ) : signed (-s) v = -signed s v := by
  cases s with
  | positive => exact (signed_negative v).trans (congrArg Neg.neg (signed_positive v).symm)
  | negative => exact (signed_positive v).trans (by rw [signed_negative, neg_neg])

theorem neg_neg_parts (u : UnpackedFloat) : u.neg.neg = u := by
  cases u with
  | notANumber => rfl
  | infinity s | zero s | finite s => cases s <;> rfl

theorem Represents.neg {u : UnpackedFloat} {v : ℚ} (known : Represents u v) :
    Represents u.neg (-v) := by
  cases known with
  | zero s =>
    rw [neg_zero]
    exact .zero (-s)
  | finite s m q filled canonical bounded =>
    show Represents (.finite (-s) m q filled) (-signed s (m * 2 ^ q))
    rw [← signed_neg]
    exact .finite (-s) m q filled canonical bounded

/-- The negative of a double. -/
theorem exact_neg {x : Float} {v : ℚ} (known : exact x = some v) : exact (-x) = some (-v) :=
  exact_of_represents (represents_of_exact known).neg rfl

/-- What an odd operation makes of numbers that are not negative, it makes of their
    negatives, too. -/
theorem Represents.signed_of_odd {f : UnpackedFloat → UnpackedFloat}
    (odd : ∀ u, f u.neg = (f u).neg)
    {v : ℚ} {good : ℚ → Prop} (plain : ∀ u, Represents u v → ∃ r, Represents (f u) r ∧ good r)
    {s : Sign} {u : UnpackedFloat} (known : Represents u (signed s v)) :
    ∃ r, Represents (f u) (signed s r) ∧ good r := by
  cases s with
  | positive =>
    rw [signed_positive] at known
    obtain ⟨r, represents, holds⟩ := plain u known
    exact ⟨r, by rwa [signed_positive], holds⟩
  | negative =>
    have opposite : Represents u.neg v := by
      rw [signed_negative] at known
      simpa using known.neg
    obtain ⟨r, represents, holds⟩ := plain u.neg opposite
    refine ⟨r, ?_, holds⟩
    rw [signed_negative, ← neg_neg_parts (f u), ← odd]
    exact represents.neg

theorem roundWithAccuracy_neg (s : Sign) (m : Nat) (q : Int) (accuracy : Accuracy) :
    roundWithAccuracy Format.binary64 (-s) m q accuracy =
      (roundWithAccuracy Format.binary64 s m q accuracy).neg := by
  unfold roundWithAccuracy
  simp only
  split <;> rfl

/-- Products are odd. -/
theorem mul_neg_parts (u w : UnpackedFloat) :
    UnpackedFloat.mul Format.binary64 u.neg w = (UnpackedFloat.mul Format.binary64 u w).neg := by
  have signs : ∀ s s' : Sign, -s * s' = -(s * s') := by
    rintro (_ | _) (_ | _) <;> rfl
  cases u <;> cases w <;>
    simp only [UnpackedFloat.neg, UnpackedFloat.mul, signs, roundWithAccuracy_neg]

/-- Quotients are odd. -/
theorem div_neg_parts (u w : UnpackedFloat) :
    UnpackedFloat.div Format.binary64 u.neg w = (UnpackedFloat.div Format.binary64 u w).neg := by
  have signs : ∀ s s' : Sign, -s / s' = -(s / s') := by
    rintro (_ | _) (_ | _) <;> rfl
  cases u <;> cases w <;>
    simp only [UnpackedFloat.neg, UnpackedFloat.div, signs, roundWithAccuracy_neg]

end Signs

theorem Represents.eq_zero {u : UnpackedFloat} (known : Represents u 0) : ∃ s, u = .zero s := by
  generalize zero : (0 : ℚ) = v at known
  cases known with
  | zero s => exact ⟨s, rfl⟩
  | finite s m q filled canonical bounded =>
    have value := value_pos filled q
    cases s with
    | negative =>
      simp only [isNegative, if_true] at zero
      linarith
    | positive =>
      simp only [isNegative, Bool.false_eq_true, if_false] at zero
      linarith

/-- A double with a positive value has a positive significand. -/
theorem Represents.parts_of_pos {u : UnpackedFloat} {v : ℚ} (known : Represents u v)
    (positive : 0 < v) :
    ∃ m q filled, u = .finite .positive m q filled ∧ Canonical m q ∧ v = m * 2 ^ q := by
  cases known with
  | zero s => exact absurd positive (lt_irrefl 0)
  | finite s m q filled canonical bounded =>
    have value := value_pos filled q
    cases s with
    | negative =>
      simp only [isNegative, if_true] at positive
      linarith
    | positive => exact ⟨m, q, filled, rfl, canonical, by simp [isNegative]⟩

theorem marks_exact (m : Nat) : Marks (.ofMantissaAndAccuracy m .exact) m := rfl

section Quotients

/-- The remainder of a division says what is behind the quotient. -/
theorem marks_quotient (num : Nat) {den : Nat} (positive : 0 < den) :
    Marks (.ofMantissaAndAccuracy (num / den) (accuracyOfFraction (num % den) den))
      ((num : ℚ) / den) := by
  obtain ⟨f, quotient, nonneg, part, zero, below, beyond⟩ := exists_fraction num positive
  rw [quotient]
  unfold accuracyOfFraction
  split
  case isTrue none => simp [zero.mp none, Marks, ExtendedMantissa.ofMantissaAndAccuracy]
  case isFalse some =>
    have above : 0 < f := lt_of_le_of_ne nonneg (Ne.symm (mt zero.mpr some))
    rcases lt_trichotomy (2 * (num % den)) den with less | same | more
    · rw [compare_lt_iff_lt.mpr less]
      have small := below.mp less
      simpa [Marks, ExtendedMantissa.ofMantissaAndAccuracy, above] using small
    · have middle : f = 1 / 2 := by
        apply le_antisymm
        · exact not_lt.mp (mt beyond.mpr (by omega))
        · exact not_lt.mp (mt below.mpr (by omega))
      rw [compare_eq_iff_eq.mpr same]
      simp [Marks, ExtendedMantissa.ofMantissaAndAccuracy, middle]
    · rw [compare_gt_iff_gt.mpr more]
      have large := beyond.mp more
      simpa [Marks, ExtendedMantissa.ofMantissaAndAccuracy, part] using large

/-- The exponent that a quotient is computed to. -/
def quotientExponent (m : Nat) (q : Int) (m' : Nat) (q' : Int) : Int :=
  min (q - q') (max (m.log2 + q - m'.log2 - q' - 53) leastExponent)

theorem div_finite (m m' : Nat) (q q' : Int) (filled : 0 < m) (filled' : 0 < m') :
    UnpackedFloat.div Format.binary64 (.finite .positive m q filled)
      (.finite .positive m' q' filled') =
      let num := m * 2 ^ (q - q' - quotientExponent m q m' q').toNat
      roundWithAccuracy Format.binary64 .positive (num / m') (quotientExponent m q m' q')
        (accuracyOfFraction (num % m') m') := by
  have target :
      min (q - q') (Format.binary64.targetExponent (totalExponent m q - totalExponent m' q')) =
        quotientExponent m q m' q' := by
    unfold quotientExponent Format.targetExponent totalExponent
    show min _ (max (_ - ((53 : Nat) : Int)) leastExponent) = _
    congr 2
    omega
  simp only [UnpackedFloat.div, Float.Model.UnpackedFloat.divCore, target, Nat.shiftLeft_eq]
  rfl

/-- There are enough bits in a quotient. -/
theorem room_quotient {m m' : Nat} {q q' : Int} (filled : 0 < m) (short : m < 2 ^ 53)
    (filled' : 0 < m') :
    quotientExponent m q m' q' ≤
      roundingExponent (m * 2 ^ (q - q' - quotientExponent m q m' q').toNat / m')
        (quotientExponent m q m' q') := by
  have bits : m.log2 ≤ 52 := Nat.le_of_lt_succ ((Nat.log2_lt (by omega)).mpr short)
  by_cases least : quotientExponent m q m' q' ≤ leastExponent
  · exact least.trans (le_max_right _ _)
  · have shift : m.log2 + (q - q' - quotientExponent m q m' q').toNat = m'.log2 + 53 := by
      unfold quotientExponent at *
      omega
    have long : 2 ^ 52 ≤ m * 2 ^ (q - q' - quotientExponent m q m' q').toNat / m' := by
      rw [Nat.le_div_iff_mul_le filled']
      calc
        2 ^ 52 * m' ≤ 2 ^ 52 * 2 ^ (m'.log2 + 1) := Nat.mul_le_mul_left _ Nat.lt_log2_self.le
        _ = 2 ^ m.log2 * 2 ^ (q - q' - quotientExponent m q m' q').toNat := by
          rw [← Nat.pow_add, ← Nat.pow_add]
          congr 1
          omega
        _ ≤ m * 2 ^ (q - q' - quotientExponent m q m' q').toNat :=
          Nat.mul_le_mul_right _ (Nat.log2_self_le (by omega))
    have used := (Nat.le_log2 (by omega)).mpr long
    unfold roundingExponent
    omega

theorem represents_div {u u' : UnpackedFloat} {v w : ℚ} (left : Represents u v)
    (right : Represents u' w)
    (nonneg : 0 ≤ v) (positive : 0 < w) {e : Int} (above : leastExponent ≤ e)
    (below : e < greatestExponent) (fits : v / w < 2 ^ 53 * 2 ^ e) :
    ∃ r, Represents (UnpackedFloat.div Format.binary64 u u') r ∧ Nearest (v / w) r := by
  obtain ⟨m', q', filled', rfl, canonical', rfl⟩ := right.parts_of_pos positive
  rcases nonneg.eq_or_lt with rfl | positive
  · obtain ⟨s, rfl⟩ := left.eq_zero
    refine ⟨0, .zero _, ?_⟩
    rw [zero_div]
    exact nearest_zero
  · obtain ⟨m, q, filled, rfl, canonical, rfl⟩ := left.parts_of_pos positive
    have least : quotientExponent m q m' q' ≤ q - q' := min_le_left _ _
    have marks := marks_quotient (m * 2 ^ (q - q' - quotientExponent m q m' q').toNat) filled'
    have value : ((m * 2 ^ (q - q' - quotientExponent m q m' q').toNat : Nat) : ℚ) / m' *
        2 ^ quotientExponent m q m' q' = m * 2 ^ q / (m' * 2 ^ q') := by
      have cast : (m' : ℚ) ≠ 0 := by exact_mod_cast filled'.ne'
      have powers :=
        pow_mul_zpow (q - q' - quotientExponent m q m' q').toNat (quotientExponent m q m' q')
      have exponent :
          ((q - q' - quotientExponent m q m' q').toNat : Int) + quotientExponent m q m' q' =
            q - q' := by omega
      rw [exponent, zpow_sub₀ (by norm_num)] at powers
      push_cast
      rw [div_mul_eq_mul_div, mul_assoc, powers]
      field_simp
    obtain ⟨r, nearest, represents⟩ :=
      nearest_rounded marks (room_quotient filled canonical.1 filled') above below (by rwa [value])
    rw [value] at nearest
    rw [div_finite]
    exact ⟨r, represents, nearest⟩

/-- Quotients of doubles are nearest doubles, with the sign of the dividend. -/
theorem exact_signed_div {x y : Float} {s : Sign} {v w : ℚ} (left : exact x = some (signed s v))
    (right : exact y = some w) (nonneg : 0 ≤ v) (positive : 0 < w) {e : Int}
    (above : leastExponent ≤ e) (below : e < greatestExponent) (fits : v / w < 2 ^ 53 * 2 ^ e) :
    ∃ r, exact (x / y) = some (signed s r) ∧ Nearest (v / w) r := by
  obtain ⟨r, represents, nearest⟩ := (represents_of_exact left).signed_of_odd
    (f := fun u => UnpackedFloat.div Format.binary64 u y.toModel.unpack)
    (fun u => div_neg_parts u _)
    fun u known => represents_div known (represents_of_exact right) nonneg positive above below fits
  exact ⟨r, exact_of_represents represents rfl, nearest⟩

theorem exact_div {x y : Float} {v w : ℚ} (left : exact x = some v) (right : exact y = some w)
    (nonneg : 0 ≤ v) (positive : 0 < w) {e : Int} (above : leastExponent ≤ e)
    (below : e < greatestExponent) (fits : v / w < 2 ^ 53 * 2 ^ e) :
    ∃ r, exact (x / y) = some r ∧ Nearest (v / w) r := by
  rw [← signed_positive v] at left
  simpa only [signed_positive] using exact_signed_div left right nonneg positive above below fits

end Quotients

section Products

/-- There are enough bits in a product. -/
theorem room_product {m m' : Nat} {q q' : Int} (filled : 0 < m) (filled' : 0 < m')
    (canonical : Canonical m q) (canonical' : Canonical m' q') :
    q + q' ≤ roundingExponent (m * m') (q + q') := by
  by_cases least : q + q' ≤ leastExponent
  · exact least.trans (le_max_right _ _)
  · have long : 2 ^ 52 ≤ m * m' := by
      rcases canonical.2.2 with normal | rfl
      · exact normal.trans (Nat.le_mul_of_pos_right m filled')
      · rcases canonical'.2.2 with normal | rfl
        · exact normal.trans (Nat.le_mul_of_pos_left m' filled)
        · exact absurd (by decide) least
    have used := (Nat.le_log2 (by omega)).mpr long
    unfold roundingExponent
    omega

theorem represents_mul {u u' : UnpackedFloat} {v w : ℚ} (left : Represents u v)
    (right : Represents u' w)
    (nonneg : 0 ≤ v) (positive : 0 < w) {e : Int} (above : leastExponent ≤ e)
    (below : e < greatestExponent) (fits : v * w < 2 ^ 53 * 2 ^ e) :
    ∃ r, Represents (UnpackedFloat.mul Format.binary64 u u') r ∧ Nearest (v * w) r := by
  obtain ⟨m', q', filled', rfl, canonical', rfl⟩ := right.parts_of_pos positive
  rcases nonneg.eq_or_lt with rfl | positive
  · obtain ⟨s, rfl⟩ := left.eq_zero
    refine ⟨0, .zero _, ?_⟩
    rw [zero_mul]
    exact nearest_zero
  · obtain ⟨m, q, filled, rfl, canonical, rfl⟩ := left.parts_of_pos positive
    have product : UnpackedFloat.mul Format.binary64 (.finite .positive m q filled)
        (.finite .positive m' q' filled') =
          roundWithAccuracy Format.binary64 .positive (m * m') (q + q') .exact := rfl
    have value : ((m * m' : Nat) : ℚ) * 2 ^ (q + q') = m * 2 ^ q * (m' * 2 ^ q') := by
      rw [zpow_add₀ (by norm_num)]
      push_cast
      ring
    obtain ⟨r, nearest, represents⟩ :=
      nearest_rounded (marks_exact (m * m')) (room_product filled filled' canonical canonical')
        above below (by rwa [value])
    rw [value] at nearest
    rw [product]
    exact ⟨r, represents, nearest⟩

/-- Products of doubles are nearest doubles, with the sign of the first factor. -/
theorem exact_signed_mul {x y : Float} {s : Sign} {v w : ℚ} (left : exact x = some (signed s v))
    (right : exact y = some w) (nonneg : 0 ≤ v) (positive : 0 < w) {e : Int}
    (above : leastExponent ≤ e) (below : e < greatestExponent) (fits : v * w < 2 ^ 53 * 2 ^ e) :
    ∃ r, exact (x * y) = some (signed s r) ∧ Nearest (v * w) r := by
  obtain ⟨r, represents, nearest⟩ := (represents_of_exact left).signed_of_odd
    (f := fun u => UnpackedFloat.mul Format.binary64 u y.toModel.unpack)
    (fun u => mul_neg_parts u _)
    fun u known => represents_mul known (represents_of_exact right) nonneg positive above below fits
  exact ⟨r, exact_of_represents represents rfl, nearest⟩

theorem exact_mul {x y : Float} {v w : ℚ} (left : exact x = some v) (right : exact y = some w)
    (nonneg : 0 ≤ v) (positive : 0 < w) {e : Int} (above : leastExponent ≤ e)
    (below : e < greatestExponent) (fits : v * w < 2 ^ 53 * 2 ^ e) :
    ∃ r, exact (x * y) = some r ∧ Nearest (v * w) r := by
  rw [← signed_positive v] at left
  simpa only [signed_positive] using exact_signed_mul left right nonneg positive above below fits

end Products

section Differences

theorem log2_mul_two_pow {n : Nat} (filled : 0 < n) (k : Nat) : (n * 2 ^ k).log2 = n.log2 + k := by
  have positive := Nat.mul_pos filled (Nat.two_pow_pos k)
  rw [Nat.log2_eq_iff (by omega), Nat.pow_add, Nat.add_right_comm, Nat.pow_add]
  constructor
  · exact Nat.mul_le_mul_right _ (Nat.log2_self_le (by omega))
  · exact Nat.mul_lt_mul_of_pos_right Nat.lt_log2_self (Nat.two_pow_pos k)

/-- A positive number of units of any size becomes a nearest double. -/
theorem nearest_round {n : Nat} (filled : 0 < n) {q e : Int} (above : leastExponent ≤ e)
    (below : e < greatestExponent) (fits : (n : ℚ) * 2 ^ q < 2 ^ 53 * 2 ^ e) :
    ∃ r, Nearest (n * 2 ^ q) r ∧
      Represents (UnpackedFloat.round Format.binary64 .positive n q) r := by
  have shifted : (n * 2 ^ (q - roundingExponent n q).toNat).log2 =
      n.log2 + (q - roundingExponent n q).toNat := log2_mul_two_pow filled _
  have same : roundingExponent (n * 2 ^ (q - roundingExponent n q).toNat)
      (q - (q - roundingExponent n q).toNat) = roundingExponent n q := by
    rw [roundingExponent, shifted]
    unfold roundingExponent
    omega
  have rounds : UnpackedFloat.round Format.binary64 .positive n q =
      roundWithAccuracy Format.binary64 .positive (n * 2 ^ (q - roundingExponent n q).toNat)
        (q - (q - roundingExponent n q).toNat) .exact := by
    simp only [UnpackedFloat.round, Float.Model.UnpackedFloat.decreaseExponent, targetExponent_eq,
      Nat.shiftLeft_eq]
  have value : ((n * 2 ^ (q - roundingExponent n q).toNat : Nat) : ℚ) *
      2 ^ (q - (q - roundingExponent n q).toNat) = n * 2 ^ q := by
    have exponent :
        ((q - roundingExponent n q).toNat : Int) + (q - (q - roundingExponent n q).toNat) = q := by
      omega
    push_cast
    rw [mul_assoc, pow_mul_zpow, exponent]
  obtain ⟨r, nearest, represents⟩ :=
    nearest_rounded (marks_exact _) (by rw [same]; omega) above below (by rwa [value])
  rw [value] at nearest
  rw [rounds]
  exact ⟨r, nearest, represents⟩

/-- A number of units that may be none becomes a nearest double. -/
theorem nearest_normalize (n : Nat) {q e : Int} (above : leastExponent ≤ e)
    (below : e < greatestExponent) (fits : (n : ℚ) * 2 ^ q < 2 ^ 53 * 2 ^ e) :
    ∃ r, Nearest (n * 2 ^ q) r ∧
      Represents (UnpackedFloat.normalize Format.binary64 n q .positive) r := by
  rcases Nat.eq_zero_or_pos n with rfl | filled
  · refine ⟨0, ?_, Represents.zero .positive⟩
    rw [Nat.cast_zero, zero_mul]
    exact nearest_zero
  · have positive : compare (n : Int) 0 = .gt := compare_gt_iff_gt.mpr (by exact_mod_cast filled)
    have rounds : UnpackedFloat.normalize Format.binary64 n q .positive =
        UnpackedFloat.round Format.binary64 .positive n q := by
      simp only [UnpackedFloat.normalize, positive, Int.toNat_natCast]
    rw [rounds]
    exact nearest_round filled above below fits

/-- Doubles are subtracted in the smaller one of their units. -/
theorem sub_finite {m m' : Nat} {q q' : Int} (filled : 0 < m) (filled' : 0 < m')
    (order : m' * 2 ^ (q' - min q q').toNat ≤ m * 2 ^ (q - min q q').toNat) :
    UnpackedFloat.sub Format.binary64 (.finite .positive m q filled)
      (.finite .positive m' q' filled') =
      UnpackedFloat.normalize Format.binary64
        (m * 2 ^ (q - min q q').toNat - m' * 2 ^ (q' - min q q').toNat : Nat)
        (min q q') .positive := by
  rw [Int.ofNat_sub order]
  simp only [UnpackedFloat.sub, Float.Model.UnpackedFloat.decreaseExponent, Nat.shiftLeft_eq]
  rfl

/-- Differences of doubles are nearest doubles. -/
theorem exact_sub {x y : Float} {v w : ℚ} (left : exact x = some v) (right : exact y = some w)
    (nonneg : 0 ≤ w) (order : w ≤ v) {e : Int} (above : leastExponent ≤ e)
    (below : e < greatestExponent) (fits : v - w < 2 ^ 53 * 2 ^ e) :
    ∃ r, exact (x - y) = some r ∧ Nearest (v - w) r := by
  have packed : (x - y).toModel =
      .pack (UnpackedFloat.sub Format.binary64 x.toModel.unpack y.toModel.unpack) := rfl
  rcases (nonneg.trans order).eq_or_lt with rfl | positive
  · obtain rfl : w = 0 := le_antisymm order nonneg
    obtain ⟨s, parts⟩ := (represents_of_exact left).eq_zero
    obtain ⟨s', parts'⟩ := (represents_of_exact right).eq_zero
    obtain ⟨s'', zero⟩ :
        ∃ s'', UnpackedFloat.sub Format.binary64 (.zero s) (.zero s') = .zero s'' := by
      cases s <;> cases s' <;> exact ⟨_, rfl⟩
    rw [parts, parts', zero] at packed
    refine ⟨0, exact_of_represents (.zero _) packed, ?_⟩
    rw [sub_zero]
    exact nearest_zero
  obtain ⟨m, q, filled, parts, canonical, rfl⟩ := (represents_of_exact left).parts_of_pos positive
  rcases nonneg.eq_or_lt with rfl | positive'
  · obtain ⟨s', parts'⟩ := (represents_of_exact right).eq_zero
    have kept : UnpackedFloat.sub Format.binary64 (.finite .positive m q filled) (.zero s') =
        .finite .positive m q filled := rfl
    have represents := represents_of_exact left
    rw [parts] at represents
    rw [parts, parts', kept] at packed
    refine ⟨_, exact_of_represents represents packed, ?_⟩
    rw [sub_zero]
    exact nearest_self canonical
  · obtain ⟨m', q', filled', parts', canonical', rfl⟩ :=
      (represents_of_exact right).parts_of_pos positive'
    rw [← mul_two_pow_toNat m (min_le_left q q'), ← mul_two_pow_toNat m' (min_le_right q q')]
      at order fits ⊢
    have order : m' * 2 ^ (q' - min q q').toNat ≤ m * 2 ^ (q - min q q').toNat := by
      exact_mod_cast le_of_mul_le_mul_right order (two_zpow_pos (min q q'))
    rw [← sub_mul, ← Nat.cast_sub order] at fits ⊢
    rw [parts, parts', sub_finite filled filled' order] at packed
    obtain ⟨r, nearest, represents⟩ := nearest_normalize _ above below fits
    exact ⟨r, exact_of_represents represents packed, nearest⟩

end Differences

end EmbeddingLatency.Decimal
