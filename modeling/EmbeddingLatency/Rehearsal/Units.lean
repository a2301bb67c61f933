import EmbeddingLatency.Bench.Backend

/-!
# Rehearsing units

A backend without models, for runs in which the calls that fail are chosen beforehand. A handle
counts its own calls, so a failure can be put at any call of any unit.
-/

set_option autoImplicit false

namespace EmbeddingLatency.Rehearsal

open EmbeddingLatency.Bench (Backend oneByOne)

/-- A call that can be made to fail. Calls of one kind are counted from one for each handle. -/
inductive FailurePoint where
  | load
  | embed (call : Nat)
  | barrier (call : Nat)
  deriving DecidableEq, Repr

/-- A call that fails, for all models and devices or for one of them. -/
structure PlannedFailure where
  model : Option String
  device : Option Device
  point : FailurePoint
  fault : Fault
  deriving DecidableEq, Repr

/-- Does the failure concern a model on a device? -/
def PlannedFailure.concerns (f : PlannedFailure) (entry : ListedModel) (device : Device) : Bool :=
  f.model.all (· = entry.modelId) && f.device.all (· = device)

/-- The fault of the first failure that is planned for a call. -/
def faultAt? (failures : List PlannedFailure) (point : FailurePoint) : Option Fault :=
  (failures.find? (·.point = point)).map (·.fault)

/-- A rehearsal: is there an accelerator, what is said of the models, and which calls fail. -/
structure Script where
  accelerator : Bool
  describe : ListedModel → ModelFacts
  failures : List PlannedFailure

/-- A handle: the failures that concern it and the number of its calls so far. -/
structure Handle where
  failures : List PlannedFailure
  embeds : Nat
  barriers : Nat
  deriving DecidableEq, Repr

namespace Handle

/-- The next embedding; all vectors are the same. -/
def embed (handle : Handle) : Except Fault Embedding × Handle :=
  let next := { handle with embeds := handle.embeds + 1 }
  match faultAt? handle.failures (.embed next.embeds) with
  | some fault => (.error fault, next)
  | none => (.ok [], next)

/-- The next barrier. -/
def barrier (handle : Handle) : Except Fault Unit × Handle :=
  let next := { handle with barriers := handle.barriers + 1 }
  match faultAt? handle.failures (.barrier next.barriers) with
  | some fault => (.error fault, next)
  | none => (.ok (), next)

end Handle

/-- The backend of a rehearsal. -/
def Script.backend {m : Type → Type} [Monad m] (script : Script) : Backend m Handle where
  accelerator := script.accelerator
  load entry device :=
    let failures := script.failures.filter (·.concerns entry device)
    match faultAt? failures .load with
    | some fault => pure (.error fault)
    | none => pure (.ok ⟨failures, 0, 0⟩)
  describe entry _ := pure (script.describe entry)
  embed handle _ := pure handle.embed
  embedAll := oneByOne fun handle _ => pure handle.embed
  barrier handle := pure handle.barrier
  release _ := pure ()

end EmbeddingLatency.Rehearsal
