import EmbeddingLatency.Decimal.Binary

/-!
# Spans of time

A span is counted in nanoseconds. As a number of seconds it is the sum of its whole seconds and of
the rest divided by a billion, each of which is rounded for itself.
-/

set_option autoImplicit false

namespace EmbeddingLatency

/-- A span of time. -/
structure Duration where
  nanos : Nat
  deriving DecidableEq, Repr

namespace Duration

/-- The number of nanoseconds in a second. -/
def perSecond : Nat := 1000000000

/-- The span from one reading of a clock to another, later one. -/
def between (start stop : Nat) : Duration := ⟨stop - start⟩

/-- The span in seconds. -/
def seconds (d : Duration) : Float :=
  Decimal.ofNat (d.nanos / perSecond) + Decimal.ofNat (d.nanos % perSecond) / 1000000000.0

/-- The span in milliseconds. -/
def milliseconds (d : Duration) : Float := d.seconds * 1000.0

end Duration

end EmbeddingLatency
