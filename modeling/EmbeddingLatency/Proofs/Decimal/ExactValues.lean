import EmbeddingLatency.Decimal.Binary
import Mathlib

/-!
# Doubles as exact numbers

The value of a finite double is a rational number. The arithmetic of doubles is defined on their
parts, a sign, a significand and an exponent, and these are the parts that `Binary.ofFloat` finds
(`ofFloat_eq_ofParts`).

The parts of a double are in canonical form: the significand has 53 bits, unless the exponent is the
least one. That is why doubles can be compared by their exponents first (`le_iff_exact`), and why
they are found again behind their bits (`unpack_pack`).
-/

set_option autoImplicit false

namespace EmbeddingLatency.Decimal

open Float.Model (UnpackedFloat Format)
open Float.Model.UnpackedFloat (Sign unpackExponent unpackMantissa unpackSign)

/-- The value `± m · 2 ^ q`. -/
def Binary.exact : Binary → Option ℚ
  | .finite negative m q => some ((if negative then -1 else 1) * (m * 2 ^ q))
  | _ => none

/-- The value of a finite double. -/
def exact (x : Float) : Option ℚ := (Binary.ofFloat x).exact

/-- A significand and an exponent that doubles have. -/
def Canonical (m : Nat) (q : Int) : Prop :=
  m < 2 ^ 53 ∧ leastExponent ≤ q ∧ (2 ^ 52 ≤ m ∨ q = leastExponent)

/-- The largest exponent of a double. -/
def greatestExponent : Int := 971

/-- Does the sign stand for a number below zero? -/
def isNegative : Sign → Bool
  | .negative => true
  | .positive => false

/-- What the parts of a double stand for. -/
def ofParts : UnpackedFloat → Binary
  | .notANumber => .nan
  | .infinity s => .infinite (isNegative s)
  | .zero s => .finite (isNegative s) 0 leastExponent
  | .finite s m q _ => .finite (isNegative s) m q

/-- A quotient is a whole number and a fraction, and the remainder tells where the fraction is. -/
theorem exists_fraction (num : Nat) {den : Nat} (positive : 0 < den) :
    ∃ f : ℚ, (num : ℚ) / den = (num / den : Nat) + f ∧ 0 ≤ f ∧ f < 1 ∧ (num % den = 0 ↔ f = 0) ∧
      (2 * (num % den) < den ↔ f < 1 / 2) ∧ (den < 2 * (num % den) ↔ 1 / 2 < f) := by
  have cast : (0 : ℚ) < den := by exact_mod_cast positive
  have whole : (num : ℚ) = den * (num / den : Nat) + (num % den : Nat) := by
    exact_mod_cast (Nat.div_add_mod num den).symm
  have less : ((num % den : Nat) : ℚ) < den := by exact_mod_cast Nat.mod_lt num positive
  refine ⟨(num % den : Nat) / den, ?_, by positivity, (div_lt_one cast).mpr less, ?_, ?_, ?_⟩
  · conv_lhs => rw [whole, add_div, mul_div_cancel_left₀ _ cast.ne']
  · rw [div_eq_zero_iff, or_iff_left cast.ne', Nat.cast_eq_zero]
  · rw [div_lt_iff₀ cast, one_div_mul_eq_div, lt_div_iff₀' two_pos]
    norm_cast
  · rw [lt_div_iff₀ cast, one_div_mul_eq_div, div_lt_iff₀' two_pos]
    norm_cast

section Bits

variable (b : BitVec 64)

theorem toNat_unpackExponent :
    (@unpackExponent Format.binary64 b).toNat = b.toNat / Nat.pow 2 52 % Nat.pow 2 11 := by
  simp [unpackExponent, BitVec.extractLsb, Nat.shiftRight_eq_div_pow]

theorem toNat_unpackMantissa :
    (@unpackMantissa Format.binary64 b).toNat = b.toNat % Nat.pow 2 52 := by
  simp [unpackMantissa, BitVec.extractLsb]

theorem isNegative_unpackSign :
    isNegative (Sign.ofBitVec (@unpackSign Format.binary64 b)) =
      (b.toNat / Nat.pow 2 63 % 2 == 1) := by
  have bit : (@unpackSign Format.binary64 b).toNat = b.toNat / Nat.pow 2 63 % 2 := by
    unfold unpackSign
    simp [BitVec.extractLsb, Nat.shiftRight_eq_div_pow]
  rw [← bit, Sign.ofBitVec]
  generalize @unpackSign Format.binary64 b = s
  revert s
  decide

end Bits

theorem toNat_one_append (v : BitVec 52) : (1#1 ++ v).toNat = v.toNat + Nat.pow 2 52 := by
  rw [BitVec.toNat_append, ← Nat.shiftLeft_add_eq_or_of_lt v.isLt, Nat.add_comm]
  rfl

theorem ofBits_eq_ofParts (b : BitVec 64) :
    Binary.ofBits b.toNat = ofParts (UnpackedFloat.unpack Format.binary64 b) := by
  have infinite : @unpackExponent Format.binary64 b = -1#_ ↔
      b.toNat / Nat.pow 2 52 % Nat.pow 2 11 = Nat.pow 2 11 - 1 := by
    rw [← toNat_unpackExponent b, ← BitVec.toNat_inj]
    rfl
  have least : @unpackExponent Format.binary64 b = 0#_ ↔
      b.toNat / Nat.pow 2 52 % Nat.pow 2 11 = 0 := by
    rw [← toNat_unpackExponent b, ← BitVec.toNat_inj]
    rfl
  have whole : @unpackMantissa Format.binary64 b = 0#_ ↔ b.toNat % Nat.pow 2 52 = 0 := by
    rw [← toNat_unpackMantissa b, ← BitVec.toNat_inj]
    rfl
  have significand := toNat_one_append (@unpackMantissa Format.binary64 b)
  rw [toNat_unpackMantissa] at significand
  unfold Binary.ofBits UnpackedFloat.unpack
  dsimp only
  by_cases top : b.toNat / Nat.pow 2 52 % Nat.pow 2 11 = Nat.pow 2 11 - 1
  · rw [if_pos top, if_pos (infinite.mpr top)]
    by_cases none : b.toNat % Nat.pow 2 52 = 0
    · rw [if_pos none, if_pos (whole.mpr none), ofParts, isNegative_unpackSign]
    · rw [if_neg none, if_neg (mt whole.mp none), ofParts]
  · rw [if_neg top, if_neg (mt infinite.mp top)]
    by_cases zero : b.toNat / Nat.pow 2 52 % Nat.pow 2 11 = 0
    · rw [if_pos zero, if_pos (least.mpr zero)]
      by_cases none : b.toNat % Nat.pow 2 52 = 0
      · rw [dif_pos (whole.mpr none), ofParts, isNegative_unpackSign, none]
      · rw [dif_neg (mt whole.mp none), ofParts, isNegative_unpackSign, toNat_unpackMantissa,
          toNat_unpackExponent, zero]
        rfl
    · rw [if_neg zero, if_neg (mt least.mp zero), ofParts, isNegative_unpackSign, significand,
        toNat_unpackExponent]
      congr 1
      simp only [leastExponent, Format.exponentBias]
      omega

theorem ofFloat_eq_ofParts (x : Float) : Binary.ofFloat x = ofParts x.toModel.unpack :=
  ofBits_eq_ofParts x.toBits.toBitVec

section Canonical

theorem canonical_ofBits {bits m : Nat} {negative : Bool} {q : Int}
    (finite : Binary.ofBits bits = .finite negative m q) :
    Canonical m q ∧ q ≤ greatestExponent := by
  have fraction : bits % Nat.pow 2 52 < Nat.pow 2 52 := Nat.mod_lt _ (by decide)
  have exponent : bits / Nat.pow 2 52 % Nat.pow 2 11 < Nat.pow 2 11 := Nat.mod_lt _ (by decide)
  unfold Binary.ofBits at finite
  simp only at finite
  generalize bits / Nat.pow 2 52 % Nat.pow 2 11 = e at *
  generalize bits % Nat.pow 2 52 = f at *
  simp only [show Nat.pow 2 52 = 2 ^ 52 from rfl, show Nat.pow 2 11 = 2048 from rfl] at *
  unfold Canonical greatestExponent
  split at finite
  · split at finite <;> cases finite
  · split at finite
    · cases finite
      exact ⟨⟨by omega, Int.le_refl _, .inr rfl⟩, by decide⟩
    · cases finite
      simp only [leastExponent]
      omega

theorem log2_of_normal {m : Nat} (low : 2 ^ 52 ≤ m) (high : m < 2 ^ 53) : m.log2 = 52 := by
  have positive : m ≠ 0 := by omega
  have atLeast : 52 ≤ m.log2 := (Nat.le_log2 positive).mpr low
  have atMost : m.log2 < 53 := (Nat.log2_lt positive).mpr high
  omega

/-- The parts of a double are found again behind its bits. -/
theorem unpack_pack {s : Sign} {m : Nat} {q : Int} (positive : 0 < m) (canonical : Canonical m q)
    (bounded : q ≤ greatestExponent) :
    (Float.Model.pack (.finite s m q positive)).unpack = .finite s m q positive := by
  obtain ⟨high, least, kind⟩ := canonical
  unfold leastExponent at least kind
  unfold greatestExponent at bounded
  have bias : (q + (Format.binary64.exponentBias : Nat) +
      (Format.binary64.mantissaBitsWithoutImplicit : Nat)).toNat = (q + 1075).toNat := by
    show (q + (1023 : Nat) + (52 : Nat)).toNat = _
    omega
  have notInfinite : BitVec.ofNat 11 (q + 1075).toNat ≠ -1#11 := by
    rw [Ne, ← BitVec.toNat_inj, BitVec.toNat_ofNat]
    show (q + 1075).toNat % 2 ^ 11 ≠ 2047
    omega
  have notZero : BitVec.ofNat 11 (q + 1075).toNat ≠ 0#11 := by
    rw [Ne, ← BitVec.toNat_inj, BitVec.toNat_ofNat]
    show (q + 1075).toNat % 2 ^ 11 ≠ 0
    omega
  show UnpackedFloat.unpack Format.binary64
    (UnpackedFloat.pack Format.binary64 (.finite s m q positive)) = _
  unfold UnpackedFloat.pack
  simp only [bias]
  rw [if_neg (by omega)]
  by_cases normal : 2 ^ 52 ≤ m
  · rw [if_pos (by rw [log2_of_normal normal high]; rfl)]
    unfold UnpackedFloat.unpack
    simp only [UnpackedFloat.unpackExponent_packComponents,
      UnpackedFloat.unpackMantissa_packComponents,
      UnpackedFloat.unpackSign_packComponents, Sign.ofBitVec_toBitVec]
    rw [if_neg notInfinite, if_neg notZero]
    have mantissa : (1#1 ++ BitVec.ofNat 52 m).toNat = m := by
      rw [toNat_one_append, BitVec.toNat_ofNat]
      show m % 2 ^ 52 + 2 ^ 52 = m
      omega
    have exponent : ((BitVec.ofNat 11 (q + 1075).toNat).toNat : Int) -
        ((Format.binary64.exponentBias : Nat) +
          (Format.binary64.mantissaBitsWithoutImplicit : Nat)) =
        q := by
      rw [BitVec.toNat_ofNat]
      show (((q + 1075).toNat % 2 ^ 11 : Nat) : Int) - ((1023 : Nat) + (52 : Nat)) = q
      omega
    rw [UnpackedFloat.finite.injEq]
    exact ⟨rfl, mantissa, exponent⟩
  · have least : q = -1074 := by omega
    have short : m.log2 < 52 := (Nat.log2_lt (by omega)).mpr (by omega)
    rw [if_neg (by show ¬m.log2 + 1 = 53; omega)]
    unfold UnpackedFloat.unpack
    simp only [UnpackedFloat.unpackExponent_packComponents,
      UnpackedFloat.unpackMantissa_packComponents,
      UnpackedFloat.unpackSign_packComponents, Sign.ofBitVec_toBitVec]
    have mantissa : (BitVec.ofNat 52 m).toNat = m := by
      rw [BitVec.toNat_ofNat]
      show m % 2 ^ 52 = m
      omega
    have filled : BitVec.ofNat 52 m ≠ 0#52 := by
      rw [Ne, ← BitVec.toNat_inj, mantissa]
      show m ≠ 0
      omega
    rw [if_neg (by decide), if_pos trivial, dif_neg filled]
    subst least
    rw [UnpackedFloat.finite.injEq]
    exact ⟨rfl, mantissa, rfl⟩

end Canonical

/-- The parts of a double and its value. -/
inductive Represents : UnpackedFloat → ℚ → Prop
  | zero (s : Sign) : Represents (.zero s) 0
  | finite (s : Sign) (m : Nat) (q : Int) (positive : 0 < m) (canonical : Canonical m q)
      (bounded : q ≤ greatestExponent) :
      Represents (.finite s m q positive) ((if isNegative s then -1 else 1) * (m * 2 ^ q))

section Values

theorem represents_unpack {b : BitVec 64} {v : ℚ} (known : (Binary.ofBits b.toNat).exact = some v) :
    Represents (UnpackedFloat.unpack Format.binary64 b) v := by
  have parts := ofBits_eq_ofParts b
  cases shape : UnpackedFloat.unpack Format.binary64 b with
  | notANumber => rw [parts, shape] at known; cases known
  | infinity s => rw [parts, shape] at known; cases known
  | zero s =>
    rw [parts, shape] at known
    obtain rfl : _ = v := Option.some.inj known
    simpa using Represents.zero s
  | finite s m q positive =>
    rw [shape, ofParts] at parts
    rw [parts] at known
    obtain rfl : _ = v := Option.some.inj known
    obtain ⟨canonical, bounded⟩ := canonical_ofBits parts
    exact .finite s m q positive canonical bounded

theorem represents_of_exact {x : Float} {v : ℚ} (known : exact x = some v) :
    Represents x.toModel.unpack v :=
  represents_unpack known

/-- A double that is put together from its parts has their value. -/
theorem exact_of_represents {u : UnpackedFloat} {v : ℚ} (known : Represents u v) {x : Float}
    (packed : x.toModel = .pack u) : exact x = some v := by
  unfold exact
  rw [ofFloat_eq_ofParts, packed]
  cases known with
  | zero s =>
    have unpacked : (Float.Model.pack (.zero s)).unpack = .zero s := by cases s <;> rfl
    rw [unpacked]
    simp [ofParts, Binary.exact]
  | finite s m q positive canonical bounded =>
    rw [unpack_pack positive canonical bounded]
    rfl

/-- A double has the value of the bits that it is made of. -/
theorem exact_ofBits {bits : UInt64} {v : ℚ} (known : (Binary.ofBits bits.toNat).exact = some v) :
    exact (Float.ofBits bits) = some v :=
  exact_of_represents (represents_unpack known) rfl

section Order

variable {m m' : Nat} {q q' : Int}

theorem value_pos (positive : 0 < m) (q : Int) : (0 : ℚ) < m * 2 ^ q := by
  have significand : (0 : ℚ) < m := by exact_mod_cast positive
  positivity

/-- A greater exponent makes a greater value. -/
theorem value_lt_value (canonical : Canonical m q) (canonical' : Canonical m' q') (less : q < q') :
    (m : ℚ) * 2 ^ q < m' * 2 ^ q' := by
  obtain ⟨high, least, -⟩ := canonical
  obtain ⟨-, -, normal | least'⟩ := canonical'
  · have upper : (m : ℚ) < 2 ^ 53 := by exact_mod_cast high
    have lower : (2 : ℚ) ^ 52 ≤ m' := by exact_mod_cast normal
    calc
      (m : ℚ) * 2 ^ q < 2 ^ 53 * 2 ^ q := by
        have scale : (0 : ℚ) < 2 ^ q := by positivity
        exact mul_lt_mul_of_pos_right upper scale
      _ = 2 ^ 52 * 2 ^ (q + 1) := by
        rw [zpow_add_one₀ (by norm_num)]
        ring
      _ ≤ 2 ^ 52 * 2 ^ q' := by
        have scale : (2 : ℚ) ^ (q + 1) ≤ 2 ^ q' := zpow_le_zpow_right₀ (by norm_num) less
        linarith
      _ ≤ m' * 2 ^ q' := by
        have scale : (0 : ℚ) < 2 ^ q' := by positivity
        exact mul_le_mul_of_nonneg_right lower scale.le
  · omega

theorem isLE_then_compare_iff (canonical : Canonical m q) (canonical' : Canonical m' q') :
    ((compare q q').then (compare m m')).isLE = true ↔ (m : ℚ) * 2 ^ q ≤ m' * 2 ^ q' := by
  rcases lt_trichotomy q q' with less | rfl | greater
  · have values := value_lt_value canonical canonical' less
    simp [compare_lt_iff_lt.mpr less, values.le]
  · have scale : (0 : ℚ) < 2 ^ q := by positivity
    rw [mul_le_mul_iff_left₀ scale, Nat.cast_le]
    simp [Nat.isLE_compare]
  · have values := value_lt_value canonical' canonical greater
    simp [compare_gt_iff_gt.mpr greater, values]

theorem le_iff_of_represents {u w : UnpackedFloat} {x y : ℚ} (left : Represents u x)
    (right : Represents w y) : u.le w = true ↔ x ≤ y := by
  unfold UnpackedFloat.le
  cases left with
  | zero s =>
    cases right with
    | zero s' => simp [UnpackedFloat.compare]
    | finite s' m' q' positive' canonical' bounded' =>
      have above := value_pos positive' q'
      cases s' with
      | positive => simp [UnpackedFloat.compare, isNegative, above.le]
      | negative => simpa [UnpackedFloat.compare, isNegative] using above
  | finite s m q positive canonical bounded =>
    have above := value_pos positive q
    cases right with
    | zero s' =>
      cases s with
      | positive => simpa [UnpackedFloat.compare, isNegative] using above
      | negative => simp [UnpackedFloat.compare, isNegative, above.le]
    | finite s' m' q' positive' canonical' bounded' =>
      have above' := value_pos positive' q'
      have forward := isLE_then_compare_iff canonical canonical'
      have backward := isLE_then_compare_iff canonical' canonical
      cases s with
      | positive =>
        cases s' with
        | positive => simpa [UnpackedFloat.compare, isNegative] using forward
        | negative =>
          simp only [UnpackedFloat.compare, isNegative]
          simp
          linarith
      | negative =>
        cases s' with
        | positive =>
          simp only [UnpackedFloat.compare, isNegative]
          simp
          linarith
        | negative =>
          have turned : ((compare q q').then (compare m m')).swap =
              (compare q' q).then (compare m' m) := by
            rw [Ordering.swap_then, ← Std.OrientedOrd.eq_swap, ← Std.OrientedOrd.eq_swap]
          simp only [UnpackedFloat.compare, isNegative, turned, Option.any_some, backward]
          simp

/-- Doubles are compared by their values. -/
theorem le_iff_exact {x y : Float} {v w : ℚ} (left : exact x = some v) (right : exact y = some w) :
    x ≤ y ↔ v ≤ w := by
  rw [← le_iff_of_represents (represents_of_exact left) (represents_of_exact right)]
  show decide (x.toModel ≤ y.toModel) = true ↔ _
  rw [decide_eq_true_iff]
  rfl

end Order

end Values

end EmbeddingLatency.Decimal
