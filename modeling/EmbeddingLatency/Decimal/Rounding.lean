import EmbeddingLatency.Decimal.Binary

/-!
# Rounding to whole numbers

The largest whole number below a double and the nearest one, a half going away from zero. Both work
on the exact value and keep its sign.
-/

set_option autoImplicit false

namespace EmbeddingLatency.Decimal

/-- The double obtained by rounding the magnitude with `f`, which is given the sign and the exact
    value as a quotient. Doubles whose last bit is worth one or more are whole already. -/
def roundWith (f : Bool → Nat → Nat → Nat) (x : Float) : Float :=
  match Binary.ofFloat x with
  | .finite negative m q =>
    if 0 ≤ q then x else nearest negative (f negative m (Nat.pow 2 (-q).toNat)) 1
  | _ => x

/-- The largest whole number that is not above a double. -/
def floor (x : Float) : Float :=
  roundWith (fun negative num den => if negative then (num + den - 1) / den else num / den) x

/-- The nearest whole number; a half goes away from zero. -/
def roundHalfAway (x : Float) : Float :=
  roundWith (fun _ num den => (2 * num + den) / (2 * den)) x

end EmbeddingLatency.Decimal
