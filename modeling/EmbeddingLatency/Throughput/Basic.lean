import EmbeddingLatency.Bench.Backend
import EmbeddingLatency.Bench.Observer
import EmbeddingLatency.Decimal.Fixed
import EmbeddingLatency.Duration
import EmbeddingLatency.Batches

/-!
# Throughput

How many texts a loaded model embeds in a second when it is given them in batches. One untimed batch
and a barrier come first. Then all batches are timed together with a barrier at the end. A batch
that does not answer one vector for each of its texts ends the measurement, as any other failure
does.
-/

set_option autoImplicit false

namespace EmbeddingLatency

/-- The largest number of texts that are embedded without being timed. -/
def warmupLimit : Nat := 100

/-- The number of batches from one log line to the next. -/
def batchesPerLogLine : Nat := 10

/-- The part of the program that the events of a measurement come from. -/
def throughputTarget : String := "embed_bench::throughput"

/-- A number of short documents that all differ. -/
def testDocuments (count : Nat) : List String :=
  (List.range count).map fun i =>
    "This is test document number " ++ Decimal.digits i ++
      " for throughput testing with embeddings."

/-- What a measurement has found out. -/
structure ThroughputOutcome where
  numTexts : Nat
  batchSize : Nat
  batches : Nat
  duration : Duration
  /-- The width of the first vector, if there is one. -/
  embeddingDim : Option Nat
  deriving DecidableEq, Repr

namespace ThroughputOutcome

/-- The number of texts in a second; zero if no time has passed. -/
def perSecond (r : ThroughputOutcome) : Float :=
  if 0.0 < r.duration.seconds then Decimal.ofNat r.numTexts / r.duration.seconds else 0.0

/-- The number of all vectors and their width. -/
def shape (r : ThroughputOutcome) : Nat × Nat := (r.numTexts, r.embeddingDim.getD 0)

end ThroughputOutcome

namespace Throughput

open EmbeddingLatency.Bench (Backend Observer)

/-- The least time that a rate is computed with, in seconds. -/
def leastSeconds : Float := 2.220446049250313e-16

/-- What the log says after a batch. -/
def batchEvent (batch total embedded count : Nat) (elapsed : Duration) : LogEvent :=
  let seconds := if elapsed.seconds < leastSeconds then leastSeconds else elapsed.seconds
  ⟨.info, throughputTarget,
    "batch " ++ Decimal.digits batch ++ "/" ++ Decimal.digits total ++ ": " ++
      Decimal.digits embedded ++ "/" ++ Decimal.digits count ++ " texts (" ++
      Decimal.fixed 0 (Decimal.ofNat embedded / seconds) ++ " emb/sec)"⟩

/-- A batch that has answered the wrong number of vectors. -/
def countFault (batch vectors texts : Nat) : Fault :=
  .inference
    ("batch " ++ Decimal.digits batch ++ " returned " ++ Decimal.digits vectors ++
      " embeddings for " ++ Decimal.digits texts ++ " texts")

/-- Does the log speak of a batch? -/
def isLogged (batch total : Nat) : Bool := batch % batchesPerLogLine = 0 || batch = total

section

variable {m : Type → Type} {H : Type} [Monad m] (backend : Backend m H) (observer : Observer m)

/-- What the timed batches have in common: how many there are, how many texts they hold, and when
    the first one began. -/
structure Pass where
  total : Nat
  count : Nat
  start : Nat

/-- The timed batches from the one after `done` on; `embedded` texts came before. Answers the width
    of the first vector. -/
def timedBatches (pass : Pass) :
    (done embedded : Nat) → (width : Option Nat) → List (List String) → H →
      m (Except Fault (Option Nat) × H)
  | _, _, width, [], handle => pure (.ok width, handle)
  | done, embedded, width, batch :: rest, handle => do
    match ← backend.embedAll handle batch with
    | (.error fault, handle) => pure (.error fault, handle)
    | (.ok vectors, handle) =>
      if vectors.length ≠ batch.length then
        pure (.error (countFault (done + 1) vectors.length batch.length), handle)
      else
        if isLogged (done + 1) pass.total then
          let now ← observer.now
          observer.log
            (batchEvent (done + 1) pass.total (embedded + batch.length) pass.count
              (.between pass.start now))
        timedBatches pass (done + 1) (embedded + batch.length)
          (width.or (vectors.head?.map (·.length))) rest handle

/-- The untimed batch, which is left out where there are no texts, and the barrier behind it. -/
def warmUp (texts : List String) (handle : H) : m (Except Fault Unit × H) := do
  if texts.isEmpty then backend.barrier handle
  else
    match ← backend.embedAll handle texts with
    | (.error fault, handle) => pure (.error fault, handle)
    | (.ok _, handle) => backend.barrier handle

/-- Embeds all texts in batches of a size and times it. -/
def measure (texts : List String) (batchSize : Nat) (handle : H) :
    m (Except Fault ThroughputOutcome × H) := do
  if batchSize = 0 then
    pure (.error (.config "batch size must be greater than zero"), handle)
  else
    match ← warmUp backend (texts.take (min batchSize warmupLimit)) handle with
    | (.error fault, handle) => pure (.error fault, handle)
    | (.ok (), handle) =>
      let total := batchCount batchSize texts.length
      let start ← observer.now
      match ← timedBatches backend observer ⟨total, texts.length, start⟩ 0 0 none
          (batches batchSize texts) handle with
      | (.error fault, handle) => pure (.error fault, handle)
      | (.ok width, handle) =>
        match ← backend.barrier handle with
        | (.error fault, handle) => pure (.error fault, handle)
        | (.ok (), handle) =>
          let stop ← observer.now
          pure (.ok ⟨texts.length, batchSize, total, .between start stop, width⟩, handle)

end

end Throughput

end EmbeddingLatency
