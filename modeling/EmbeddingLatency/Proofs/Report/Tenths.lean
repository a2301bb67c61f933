import EmbeddingLatency.Proofs.Decimal.WholeNumbers
import EmbeddingLatency.Proofs.Json.Doubles
import EmbeddingLatency.Report.Json

/-!
# Rounding to tenths

The duration of a run and the amounts of memory are reported to one decimal place. They are
multiplied by ten, rounded to a whole number and divided by ten again, and the product and the
quotient are rounded themselves, because they are doubles. `RoundedToTenths` says what comes out,
and `roundedToTenths` that it does for every double.
-/

set_option autoImplicit false

namespace EmbeddingLatency.Report

open EmbeddingLatency.Decimal
open Float.Model (UnpackedFloat)

/-- The second double is the first one rounded to a tenth. Ten times the first one, as a nearest
    double, is rounded to a natural number, where a half is rounded up. The second one is the
    double nearest to a tenth of that number and has the sign of the first one. What is no number
    is not rounded. -/
structure RoundedToTenths (x r : Float) : Prop where
  steps : r = roundHalfAway (x * 10.0) / 10.0
  finite : ∀ v, exact x = some v → |v| * 10 < 2 ^ 1023 →
    ∃ (product quotient : ℚ) (n : Nat), Nearest (|v| * 10) product ∧
      n - 1 / 2 ≤ product ∧ product < n + 1 / 2 ∧ Nearest (n / 10) quotient ∧
      exact r = some (if v < 0 then -quotient else quotient)
  special : isFinite x = false → Binary.ofFloat r = Binary.ofFloat x

theorem exact_ten : exact 10.0 = some 10 := by decide +kernel

/-- A number is a magnitude with a sign. -/
theorem exists_signed (v : ℚ) :
    ∃ s, v = signed s |v| ∧ ∀ r, (if v < 0 then -r else r) = signed s r := by
  by_cases below : v < 0
  · exact ⟨.negative, by rw [signed_negative, abs_of_neg below, neg_neg],
      fun r => by rw [if_pos below, signed_negative]⟩
  · exact ⟨.positive, by rw [signed_positive, abs_of_nonneg (not_lt.mp below)],
      fun r => by rw [if_neg below, signed_positive]⟩

/-- What is no number stays so when it is multiplied or divided by a positive number. -/
theorem scaled_special {x y : Float} (special : isFinite x = false) {w : ℚ}
    (known : exact y = some w) (positive : 0 < w) :
    Binary.ofFloat (x * y) = Binary.ofFloat x ∧ Binary.ofFloat (x / y) = Binary.ofFloat x := by
  obtain ⟨m, q, filled, parts, -⟩ := (represents_of_exact known).parts_of_pos positive
  unfold isFinite at special
  simp only [ofFloat_eq_ofParts] at special ⊢
  show ofParts (Float.Model.pack (.mul .binary64 x.toModel.unpack y.toModel.unpack)).unpack = _ ∧
    ofParts (Float.Model.pack (.div .binary64 x.toModel.unpack y.toModel.unpack)).unpack = _
  rw [parts]
  cases shape : x.toModel.unpack with
  | notANumber =>
    simp only [UnpackedFloat.mul, UnpackedFloat.div]
    exact ⟨rfl, rfl⟩
  | infinity s =>
    simp only [UnpackedFloat.mul, UnpackedFloat.div]
    cases s <;> exact ⟨rfl, rfl⟩
  | zero s => simp [shape, ofParts] at special
  | finite s m q => simp [shape, ofParts] at special

theorem roundedToTenths (x : Float) : RoundedToTenths x (tenths x) where
  steps := rfl
  finite := by
    intro v known fits
    obtain ⟨s, value, sign⟩ := exists_signed v
    have limit : (2 : ℚ) ^ 53 * 2 ^ (970 : Int) = 2 ^ 1023 := pow_mul_zpow 53 970
    have signedKnown : exact x = some (signed s |v|) := by rw [known, ← value]
    obtain ⟨product, multiplied, near⟩ := exact_signed_mul signedKnown exact_ten (abs_nonneg v)
      (by norm_num) (e := 970) (by decide) (by decide) (by rwa [limit])
    have nonneg : 0 ≤ product := by
      obtain ⟨n, t, rfl, -⟩ := near
      exact mul_nonneg (Nat.cast_nonneg n) (two_zpow_pos t).le
    have bounded : product ≤ 2 ^ 1023 := by
      have power : ((2 ^ 53 : Int) : ℚ) = 2 ^ 53 := by norm_num
      have below := near.le_of_le (j := 2 ^ 53) (e := 970) (by decide) (by rwa [limit])
        (by rw [power, limit]; exact fits.le)
      rwa [power, limit] at below
    obtain ⟨n, rounded, low, high⟩ := exact_roundHalfAway multiplied nonneg
    have short : (n : ℚ) / 10 < 2 ^ 53 * 2 ^ (970 : Int) := by
      have one : (1 : ℚ) ≤ 2 ^ 1023 := one_le_pow₀ (by norm_num)
      rw [limit]
      generalize (2 : ℚ) ^ 1023 = bound at bounded one ⊢
      linarith
    obtain ⟨quotient, divided, near'⟩ := exact_signed_div rounded exact_ten (Nat.cast_nonneg n)
      (by norm_num) (by decide) (by decide) short
    exact ⟨product, quotient, n, near, low, high, near', by rw [sign]; exact divided⟩
  special := by
    intro special
    obtain ⟨same, -⟩ := scaled_special special exact_ten (by norm_num)
    have whole : roundHalfAway (x * 10.0) = x * 10.0 := by
      unfold isFinite at special
      unfold roundHalfAway roundWith
      rw [same]
      split <;> simp_all
    have special' : isFinite (x * 10.0) = false := by
      unfold isFinite at special ⊢
      rwa [same]
    rw [tenths, whole, (scaled_special special' exact_ten (by norm_num)).2, same]

end EmbeddingLatency.Report
