import EmbeddingLatency.Decimal.Binary

/-!
# Decimal text with a fixed number of digits

`fixed` writes a double with a given number of decimal places and `scientific` with a given number
of digits after the point of its leading digit. Both round the exact binary value once, a tie to
the even digit, and both keep the sign of zero.
-/

set_option autoImplicit false

namespace EmbeddingLatency.Decimal

/-- The decimal digits of `n`, with zeros in front up to `width`. -/
def padded (width n : Nat) : List Char :=
  let digits := Nat.toDigits 10 n
  List.replicate (width - digits.length) '0' ++ digits

/-- The decimal digits of `n`, as text. -/
def digits (n : Nat) : String := String.ofList (Nat.toDigits 10 n)

/-- The decimal digits of an integer, with a minus sign in front of a negative one. -/
def integer (n : Int) : String :=
  if n < 0 then "-" ++ digits n.natAbs else digits n.natAbs

/-- The sign that stands in front of a number. -/
def sign (negative : Bool) : String := if negative then "-" else ""

/-- How values that are no numbers are written. -/
def Binary.special : Binary → Option String
  | .nan => some "NaN"
  | .infinite negative => some (sign negative ++ "inf")
  | .finite .. => none

/-- The quotient `m · 2 ^ q · 10 ^ k` as a pair of natural numbers. -/
def scaled (m : Nat) (q k : Int) : Nat × Nat :=
  (m * Nat.pow 2 q.toNat * Nat.pow 10 k.toNat, Nat.pow 2 (-q).toNat * Nat.pow 10 (-k).toNat)

theorem scaled_fst_pos {m : Nat} (positive : 0 < m) (q k : Int) : 0 < (scaled m q k).1 :=
  Nat.mul_pos (Nat.mul_pos positive (Nat.pow_pos (by decide))) (Nat.pow_pos (by decide))

theorem scaled_snd_pos (m : Nat) (q k : Int) : 0 < (scaled m q k).2 :=
  Nat.mul_pos (Nat.pow_pos (by decide)) (Nat.pow_pos (by decide))

/-- The digits of `n` with a point in front of the last `places` of them. -/
def pointed (places n : Nat) : String :=
  let all := padded (places + 1) n
  let whole := String.ofList (all.take (all.length - places))
  if places = 0 then whole else whole ++ "." ++ String.ofList (all.drop (all.length - places))

/-- A finite or special value with exactly `places` decimal places. -/
def Binary.fixed (places : Nat) : Binary → String
  | .nan => "NaN"
  | .infinite negative => sign negative ++ "inf"
  | .finite negative m q =>
    let (num, den) := scaled m q places
    sign negative ++ pointed places (roundDiv num den)

/-- A double with exactly `places` decimal places. -/
def fixed (places : Nat) (x : Float) : String := (Binary.ofFloat x).fixed places

/-- The least number of tens by which `num` has to be multiplied to reach `den`, searched among
    the first `bound` numbers. -/
def tensToReach (num den : Nat) : (bound : Nat) → Nat
  | 0 => 0
  | bound + 1 => if den ≤ num then 0 else tensToReach (num * 10) den bound + 1

/-- The exponent of the leading digit of the positive number `m · 2 ^ q`. -/
def leadingExponent (m : Nat) (q : Int) : Int :=
  let (num, den) := scaled m q 0
  if den ≤ num then ((Nat.toDigits 10 (num / den)).length : Int) - 1
  else -(tensToReach num den 400 : Int)

/-- A leading digit, `places` digits after the point, and the exponent of ten. -/
def Binary.scientific (places : Nat) : Binary → String
  | .nan => "NaN"
  | .infinite negative => sign negative ++ "inf"
  | .finite negative m q =>
    if m = 0 then sign negative ++ pointed places 0 ++ "e0"
    else
      let exponent := leadingExponent m q
      let (num, den) := scaled m q (places - exponent)
      let rounded := roundDiv num den
      if rounded = Nat.pow 10 (places + 1) then
        sign negative ++ pointed places (Nat.pow 10 places) ++ "e" ++ integer (exponent + 1)
      else sign negative ++ pointed places rounded ++ "e" ++ integer exponent

/-- A double with one digit before and `places` digits after the point, and an exponent. -/
def scientific (places : Nat) (x : Float) : String := (Binary.ofFloat x).scientific places

/-- Ties go to the even digit, and zero keeps its sign. -/
example :
    (Binary.finite false 5 (-1)).fixed 0 = "2" ∧ (Binary.finite true 0 0).fixed 2 = "-0.00" := by
  decide +kernel

end EmbeddingLatency.Decimal
