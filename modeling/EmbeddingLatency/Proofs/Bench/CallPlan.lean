import EmbeddingLatency.Bench.Unit
import EmbeddingLatency.Proofs.Bench.Recording

/-!
# Call plans

The calls that a unit makes of a loaded model when none of them fails, each with the stage and the
count that a failure there is reported with. `Made` says which calls of a plan have been made: all
of them, or those up to the first that fails. Plans are put one behind the other, and so are the
records of their calls.
-/

set_option autoImplicit false

namespace EmbeddingLatency.Bench

/-- A call of a loaded model that can fail. -/
inductive ModelCall where
  | embed (text : String)
  | barrier
  deriving DecidableEq, Repr

/-- A call with the stage that it belongs to and the number of timed calls that are complete before
    it. -/
structure PlannedCall where
  call : ModelCall
  stage : UnitStep
  completed : Nat
  deriving DecidableEq, Repr

/-- The event of a planned call. -/
def PlannedCall.event (number : Nat) (fault : Option Fault) (planned : PlannedCall) : Event :=
  match planned.call with
  | .embed text => .embed number text fault
  | .barrier => .barrier number fault

/-- The barrier behind a call, which only an accelerator has. -/
def barrierPlan (device : Device) (stage : UnitStep) (completed : Nat) : List PlannedCall :=
  if device.isAccelerator then [⟨.barrier, stage, completed⟩] else []

/-- The untimed calls of a query and the barrier behind them. -/
def warmUpPlan (device : Device) (text : String) (count completed : Nat) : List PlannedCall :=
  List.replicate count ⟨.embed text, .warmup, completed⟩ ++ barrierPlan device .warmup completed

/-- A timed call and its barrier. -/
def timedCallPlan (device : Device) (text : String) (completed : Nat) : List PlannedCall :=
  ⟨.embed text, .timing, completed⟩ :: barrierPlan device .timing completed

/-- A number of timed calls. -/
def timedCallsPlan (device : Device) (text : String) (count completed : Nat) : List PlannedCall :=
  (List.range' completed count).flatMap (timedCallPlan device text)

/-- All calls of a query. -/
def queryPlan (reps : Repetitions) (device : Device) (query : QuerySize) (completed : Nat) :
    List PlannedCall :=
  warmUpPlan device query.text reps.warmup completed ++
    timedCallsPlan device query.text reps.iterations completed

/-- All calls of some queries, one query after the other. -/
def queriesPlan (reps : Repetitions) (device : Device) : List QuerySize → Nat → List PlannedCall
  | [], _ => []
  | query :: rest, completed =>
    queryPlan reps device query completed ++
      queriesPlan reps device rest (completed + reps.iterations)

/-- All calls of a unit. -/
def unitPlan (reps : Repetitions) (device : Device) : List PlannedCall :=
  queriesPlan reps device QuerySize.all 0

example :
    unitPlan ⟨1, 1⟩ .cuda =
      QuerySize.all.flatMap fun query =>
        [⟨.embed query.text, .warmup, query.rank⟩, ⟨.barrier, .warmup, query.rank⟩,
          ⟨.embed query.text, .timing, query.rank⟩, ⟨.barrier, .timing, query.rank⟩] := rfl

theorem completed_of_mem_barrierPlan {device : Device} {stage : UnitStep} {completed : Nat}
    {planned : PlannedCall} (member : planned ∈ barrierPlan device stage completed) :
    planned.completed = completed := by
  cases device with
  | cpu => cases member
  | cuda =>
    cases List.mem_singleton.mp member
    rfl

theorem completed_of_mem_warmUpPlan {device : Device} {text : String} {count completed : Nat}
    {planned : PlannedCall} (member : planned ∈ warmUpPlan device text count completed) :
    planned.completed = completed := by
  rcases List.mem_append.mp member with embedded | waited
  · rw [List.eq_of_mem_replicate embedded]
  · exact completed_of_mem_barrierPlan waited

theorem completed_of_mem_timedCallPlan {device : Device} {text : String} {completed : Nat}
    {planned : PlannedCall} (member : planned ∈ timedCallPlan device text completed) :
    planned.completed = completed := by
  rcases List.mem_cons.mp member with rfl | waited
  · rfl
  · exact completed_of_mem_barrierPlan waited

theorem completed_le_of_mem_queryPlan {reps : Repetitions} {device : Device} {query : QuerySize}
    {completed : Nat} {planned : PlannedCall}
    (member : planned ∈ queryPlan reps device query completed) :
    planned.completed ≤ completed + reps.iterations := by
  rcases List.mem_append.mp member with warm | timed
  · rw [completed_of_mem_warmUpPlan warm]
    exact Nat.le_add_right _ _
  · obtain ⟨done, range, called⟩ := List.mem_flatMap.mp timed
    rw [completed_of_mem_timedCallPlan called]
    have bound := List.mem_range'_1.mp range
    omega

theorem completed_le_of_mem_queriesPlan {reps : Repetitions} {device : Device}
    {queries : List QuerySize} {completed : Nat} {planned : PlannedCall}
    (member : planned ∈ queriesPlan reps device queries completed) :
    planned.completed ≤ completed + queries.length * reps.iterations := by
  induction queries generalizing completed with
  | nil => cases member
  | cons query rest ih =>
    rw [List.length_cons, Nat.succ_mul]
    rcases List.mem_append.mp member with here | later
    · have bound := completed_le_of_mem_queryPlan here
      omega
    · have bound := ih later
      omega

/-- How the calls of a plan have come to an end before their time. -/
structure Stop where
  stage : UnitStep
  completed : Nat
  source : Fault

/-- The stop that an answer tells of. -/
def stopOf {ε α : Type} (tell : ε → Stop) : Except ε α → Option Stop
  | .ok _ => none
  | .error e => some (tell e)

@[simp] theorem isLoad_event (number : Nat) (fault : Option Fault) (planned : PlannedCall) :
    (planned.event number fault).isLoad = false := by
  obtain ⟨_ | _, _, _⟩ := planned <;> rfl

@[simp] theorem isRequest_event (number : Nat) (fault : Option Fault) (planned : PlannedCall) :
    (planned.event number fault).isRequest = true := by
  obtain ⟨_ | _, _, _⟩ := planned <;> rfl

@[simp] theorem progress_event (number : Nat) (fault : Option Fault) (planned : PlannedCall) :
    (planned.event number fault).progress = 0 := by
  obtain ⟨_ | _, _, _⟩ := planned <;> rfl

@[simp] theorem loadCount_append (events more : List Event) :
    loadCount (events ++ more) = loadCount events + loadCount more :=
  List.countP_append ..

@[simp] theorem loadCount_announce (message : String) : loadCount [.announce message] = 0 := rfl

@[simp] theorem loadCount_log (event : LogEvent) : loadCount [.log event] = 0 := rfl

@[simp] theorem loadCount_advance (steps : Nat) : loadCount [.advance steps] = 0 := rfl

theorem loadCount_event (number : Nat) (fault : Option Fault) (planned : PlannedCall) :
    loadCount [planned.event number fault] = 0 := by
  simp [loadCount]

theorem loadCount_planned (number : Nat) (fault : Option Fault) (plan : List PlannedCall) :
    loadCount (plan.map (·.event number fault)) = 0 := by
  simp [loadCount]

/-- The calls of a plan that have been made: every one, or those up to the first that fails. -/
inductive Made (number : Nat) (plan : List PlannedCall) : Option Stop → List Event → Prop
  | all : Made number plan none (plan.map (·.event number none))
  | upTo {made left : List PlannedCall} {call : PlannedCall} (split : plan = made ++ call :: left)
      (fault : Fault) :
      Made number plan (some ⟨call.stage, call.completed, fault⟩)
        (made.map (·.event number none) ++ [call.event number (some fault)])

theorem Made.append {number : Nat} {plan rest : List PlannedCall} {stop : Option Stop}
    {events more : List Event} (first : Made number plan none events)
    (second : Made number rest stop more) : Made number (plan ++ rest) stop (events ++ more) := by
  cases first
  cases second with
  | all =>
    rw [← List.map_append]
    exact .all
  | upTo split fault =>
    rw [← List.append_assoc, ← List.map_append]
    exact .upTo (by rw [split, List.append_assoc]) fault

theorem Made.cut {number : Nat} {plan : List PlannedCall} {stop : Stop} {events : List Event}
    (first : Made number plan (some stop) events) (rest : List PlannedCall) :
    Made number (plan ++ rest) (some stop) events := by
  cases first with
  | upTo split fault => exact .upTo (by rw [split, List.append_assoc, List.cons_append]) fault

@[simp] theorem requests_append (events more : List Event) :
    requests (events ++ more) = requests events ++ requests more :=
  List.filter_append ..

@[simp] theorem position_append (events more : List Event) :
    position (events ++ more) = position events + position more := by
  induction events with
  | nil => simp
  | cons event rest ih => rw [List.cons_append, position_cons, position_cons, ih, Nat.add_assoc]

/-- What the events of some calls show: which calls of the plan have been made, and that
    the progress bar, which stood at `done`, has moved by `count` steps or up to the
    call that failed. -/
structure CallRecord (number : Nat) (plan : List PlannedCall) (done count : Nat)
    (stop : Option Stop) (events : List Event) : Prop where
  calls : Made number plan stop (requests events)
  moved : done + position events = (stop.map (·.completed)).getD (done + count)

namespace CallRecord

variable {number : Nat} {plan rest : List PlannedCall} {done count : Nat} {events more : List Event}

theorem append {later : Nat} {stop : Option Stop}
    (first : CallRecord number plan done count none events)
    (second : CallRecord number rest (done + count) later stop more) :
    CallRecord number (plan ++ rest) done (count + later) stop (events ++ more) where
  calls := by
    rw [requests_append]
    exact first.calls.append second.calls
  moved := by
    have moved : done + position events = done + count := first.moved
    rw [position_append, ← Nat.add_assoc, moved, second.moved, Nat.add_assoc]

theorem cut {stop : Stop} (first : CallRecord number plan done count (some stop) events)
    (rest : List PlannedCall) (total : Nat) :
    CallRecord number (plan ++ rest) done total (some stop) events where
  calls := first.calls.cut rest
  moved := first.moved

/-- No calls leave no events. -/
theorem nil : CallRecord number [] done 0 none [] where
  calls := .all
  moved := rfl

/-- A single call. -/
theorem single {α : Type} (number : Nat) (planned : PlannedCall) (answer : Except Fault α) :
    CallRecord number [planned] planned.completed 0
      (stopOf (Stop.mk planned.stage planned.completed) answer)
      [planned.event number (faultOf? answer)] := by
  have request : ∀ fault, requests [planned.event number fault] = [planned.event number fault] := by
    simp [requests]
  have still : ∀ fault, position [planned.event number fault] = 0 := by
    simp
  refine ⟨?_, by rw [still]; cases answer <;> rfl⟩
  rw [request]
  cases answer with
  | ok _ => exact .all
  | error fault => exact .upTo (show [planned] = [] ++ planned :: [] from rfl) fault

/-- Events that are no requests end no plan, but they may move the progress bar. -/
theorem followedBy (first : CallRecord number plan done count none events) (more : List Event)
    (silent : requests more = []) :
    CallRecord number plan done (count + position more) none (events ++ more) where
  calls := by
    rw [requests_append, silent, List.append_nil]
    exact first.calls
  moved := by
    have moved : done + position events = done + count := first.moved
    rw [position_append, ← Nat.add_assoc, moved, Nat.add_assoc]
    rfl

end CallRecord

end EmbeddingLatency.Bench
