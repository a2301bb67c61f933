import EmbeddingLatency.Log

/-!
# Observers

While a benchmark runs it reads a clock, moves a progress bar and writes to a log. An observer is
what it does that with.
-/

set_option autoImplicit false

namespace EmbeddingLatency.Bench

/-- A clock, a progress bar and a log. -/
structure Observer (m : Type → Type) where
  /-- Reads a clock that counts nanoseconds and never goes back. -/
  now : m Nat
  /-- Moves the progress bar on. -/
  advance : Nat → m Unit
  /-- Says beside the progress bar what is going on. -/
  announce : String → m Unit
  /-- Writes to the log. -/
  log : LogEvent → m Unit

/-- An observer that sees nothing and whose clock stands still. -/
def Observer.silent {m : Type → Type} [Monad m] : Observer m where
  now := pure 0
  advance _ := pure ()
  announce _ := pure ()
  log _ := pure ()

end EmbeddingLatency.Bench
