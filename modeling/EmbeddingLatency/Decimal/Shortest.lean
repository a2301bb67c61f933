import EmbeddingLatency.Decimal.Fixed

/-!
# The fewest digits that read back

Every double has an interval of reals that round to it; the ends belong to it exactly when the
significand is even. `shortest` looks, for one digit, two digits and so on, at the two neighbours
of the value on the grid of decimals with that many digits. The first grid with a neighbour in the
interval wins, and of two such neighbours the nearer one.
-/

set_option autoImplicit false

namespace EmbeddingLatency.Decimal

/-- The decimal `digits · 10 ^ exponent`. -/
structure Scientific where
  digits : Nat
  exponent : Int
  deriving DecidableEq, Repr

/-- Four times the value and the ends of its interval, over one denominator, in units of the grid
    `10 ^ k`. -/
structure Interval where
  low : Nat
  value : Nat
  high : Nat
  unit : Nat
  closed : Bool

/-- The interval of reals that round to `m · 2 ^ q`, measured on the grid `10 ^ k`. Below a power
    of two the neighbouring double is only half as far away. -/
def Interval.on (m : Nat) (q k : Int) : Interval :=
  let (num, den) := scaled 1 q (-k)
  let below := if m = Nat.pow 2 52 ∧ leastExponent < q then 1 else 2
  { low := (4 * m - below) * num, value := 4 * m * num, high := (4 * m + 2) * num
    unit := 4 * den, closed := m % 2 = 0 }

/-- Does the grid point `n` lie in the interval? -/
def Interval.holds (i : Interval) (n : Nat) : Bool :=
  if i.closed then i.low ≤ n * i.unit ∧ n * i.unit ≤ i.high
  else i.low < n * i.unit ∧ n * i.unit < i.high

/-- The grid point of the interval that is nearest to its value, if there is one. -/
def Interval.point? (i : Interval) : Option Nat :=
  let lower := i.value / i.unit
  match i.holds lower, i.holds (lower + 1) with
  | true, true =>
    let twice := 2 * (i.value % i.unit)
    some (if twice < i.unit ∨ (twice = i.unit ∧ lower % 2 = 0) then lower else lower + 1)
  | true, false => some lower
  | false, true => some (lower + 1)
  | false, false => none

/-- The first grid with a point in the interval, from the coarser to the finer ones. -/
def searchGrids (m : Nat) (q k : Int) : (grids : Nat) → Scientific
  | 0 => ⟨((Interval.on m q k).value / (Interval.on m q k).unit), k⟩
  | grids + 1 =>
    match (Interval.on m q k).point? with
    | some n => ⟨n, k⟩
    | none => searchGrids m q (k - 1) grids

/-- Zeros at the end of the digits moved into the exponent; `bound` is at least their number. -/
def Scientific.stripped (d : Scientific) : (bound : Nat) → Scientific
  | 0 => d
  | bound + 1 =>
    if d.digits ≠ 0 ∧ d.digits % 10 = 0 then
      Scientific.stripped ⟨d.digits / 10, d.exponent + 1⟩ bound
    else d

/-- The shortest decimal that reads back as the positive double `m · 2 ^ q`. -/
def shortest (m : Nat) (q : Int) : Scientific :=
  (searchGrids m q (leadingExponent m q) 17).stripped 20

end EmbeddingLatency.Decimal
