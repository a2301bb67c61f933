/-!
# Binary floating-point values as exact numbers

A finite double is `± m · 2 ^ q` for natural numbers `m` below `2 ^ 53`. `Binary.ofFloat` takes a
double apart, `nearest` puts the double nearest to a quotient of natural numbers together (a tie
goes to the even significand), and `roundDiv` is the one rounding step that both this module and
the printers of decimal text use.
-/

set_option autoImplicit false

namespace EmbeddingLatency.Decimal

/-- The natural number nearest to `num / den`; a tie goes to the even neighbour. -/
def roundDiv (num den : Nat) : Nat :=
  let quotient := num / den
  let twice := 2 * (num % den)
  if twice < den then quotient
  else if den < twice then quotient + 1
  else if quotient % 2 = 0 then quotient else quotient + 1

/-- A multiple of the divisor is not rounded at all. -/
theorem roundDiv_mul (n den : Nat) (h : 0 < den) : roundDiv (n * den) den = n := by
  simp [roundDiv, Nat.mul_div_cancel n h, h]

/-- What the 64 bits of a double stand for. -/
inductive Binary where
  | nan
  | infinite (negative : Bool)
  /-- The value `± m · 2 ^ q`. -/
  | finite (negative : Bool) (m : Nat) (q : Int)
  deriving DecidableEq, Repr

/-- The exponent of the least significant bit of the smallest doubles. -/
def leastExponent : Int := -1074

/-- The value that a pattern of 64 bits stands for. -/
def Binary.ofBits (bits : Nat) : Binary :=
  let negative := bits / Nat.pow 2 63 % 2 == 1
  let exponent : Nat := bits / Nat.pow 2 52 % Nat.pow 2 11
  let fraction : Nat := bits % Nat.pow 2 52
  if exponent = Nat.pow 2 11 - 1 then
    if fraction = 0 then .infinite negative else .nan
  else if exponent = 0 then .finite negative fraction leastExponent
  else .finite negative (fraction + Nat.pow 2 52) (exponent + leastExponent - 1)

/-- The value that a double stands for. -/
def Binary.ofFloat (x : Float) : Binary := .ofBits x.toBits.toNat

/-- The bits of the positive double nearest to `num / den`, infinity included. -/
def nearestBits (num den : Nat) : Nat :=
  if num = 0 then 0 else
    let guess : Int := (Nat.log2 num : Int) - (Nat.log2 den : Int) - 52
    let scaled (q : Int) : Nat × Nat := (num * Nat.pow 2 (-q).toNat, den * Nat.pow 2 q.toNat)
    let tooWide := (scaled guess).1 < Nat.pow 2 52 * (scaled guess).2
    let q := max (if tooWide then guess - 1 else guess) leastExponent
    let bits := (q - leastExponent).toNat * Nat.pow 2 52 + roundDiv (scaled q).1 (scaled q).2
    min bits (2047 * Nat.pow 2 52)

/-- The double nearest to `num / den`, with the given sign. -/
def nearest (negative : Bool) (num den : Nat) : Float :=
  let magnitude := Float.ofBits (UInt64.ofNat (nearestBits num den))
  if negative then -magnitude else magnitude

/-- The double nearest to a natural number. -/
def ofNat (n : Nat) : Float := nearest false n 1

/-- The double nearest to `± digits · 10 ^ exponent`; exponents far outside the range of doubles
    are settled without computing the power of ten. -/
def ofDigits (negative : Bool) (digits : Nat) (exponent : Int) : Float :=
  let magnitude : Int := exponent + (Nat.log2 digits / 3 : Nat)
  if digits = 0 ∨ magnitude < -1000 then nearest negative 0 1
  else if exponent > 400 then nearest negative (Nat.pow 10 400) 1
  else nearest negative (digits * Nat.pow 10 exponent.toNat) (Nat.pow 10 (-exponent).toNat)

end EmbeddingLatency.Decimal
