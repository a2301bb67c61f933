import EmbeddingLatency.Bench.Backend

/-!
# Rehearsing throughput

A backend without models whose calls answer vectors of chosen widths, of which one call may fail and
one may answer too many or too few.
-/

set_option autoImplicit false

namespace EmbeddingLatency.Rehearsal

open EmbeddingLatency.Bench (Backend)

/-- What the calls of a rehearsal do. Calls and barriers are counted from one. -/
structure BatchScript where
  /-- The widths of the vectors, call by call; the last one counts for all later calls. -/
  widths : List Nat
  failingCall : Option Nat
  failingBarrier : Option Nat
  /-- The call that answers another number of vectors. -/
  oddCall : Option Nat
  /-- How many vectors that call answers beyond the number of its texts. -/
  surplus : Int
  deriving DecidableEq, Repr

/-- The number of calls and barriers so far. -/
structure CallCount where
  calls : Nat
  barriers : Nat
  deriving DecidableEq, Repr

namespace BatchScript

/-- The width of the vectors of a call. -/
def width (s : BatchScript) (call : Nat) : Nat :=
  (s.widths[call - 1]?.or s.widths.getLast?).getD 0

/-- The number of vectors that a call answers for some texts. -/
def vectorCount (s : BatchScript) (call texts : Nat) : Nat :=
  if s.oddCall = some call then ((texts : Int) + s.surplus).toNat else texts

/-- One call with some texts. -/
def call (s : BatchScript) (count : CallCount) (texts : List String) :
    Except Fault (List Embedding) × CallCount :=
  let next := { count with calls := count.calls + 1 }
  if s.failingCall = some next.calls then (.error (.inference "device lost"), next)
  else
    (.ok (List.replicate (s.vectorCount next.calls texts.length)
      (List.replicate (s.width next.calls) 0)), next)

/-- One barrier. -/
def barrier (s : BatchScript) (count : CallCount) : Except Fault Unit × CallCount :=
  let next := { count with barriers := count.barriers + 1 }
  if s.failingBarrier = some next.barriers then (.error (.model "barrier failed"), next)
  else (.ok (), next)

/-- One call with a single text. -/
def single (s : BatchScript) (count : CallCount) (text : String) :
    Except Fault Embedding × CallCount :=
  let (answer, next) := s.call count [text]
  (answer.map (·.headD []), next)

/-- The backend of a rehearsal. There is nothing to load. -/
def backend {m : Type → Type} [Monad m] (s : BatchScript) : Backend m CallCount where
  accelerator := false
  load _ _ := pure (.ok ⟨0, 0⟩)
  describe entry _ := pure (.unknown entry)
  embed count text := pure (s.single count text)
  embedAll count texts := pure (s.call count texts)
  barrier count := pure (s.barrier count)
  release _ := pure ()

end BatchScript

end EmbeddingLatency.Rehearsal
