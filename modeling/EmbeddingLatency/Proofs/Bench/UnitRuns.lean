import EmbeddingLatency.Proofs.Bench.CallPlan
import Mathlib.Data.List.Basic

/-!
# The calls of a unit

What a unit asks of its backend, whichever of its calls fail. `UnitRun` lists the three ways in
which a unit can go: the model cannot be loaded, a call of the plan fails, or the whole plan is
carried out. Every loop of a unit has a lemma that says which part of the plan it makes;
`records_measureUnit` puts them together, with the progress bar beside the calls.
-/

set_option autoImplicit false

namespace EmbeddingLatency.Bench

section Calls

variable {σ H : Type} (backend : Backend (StateM σ) H) (observer : Observer (StateM σ))

theorem records_barrier {before : List Event} (device : Device) (stage : UnitStep)
    (done number : Nat) (handle : H) :
    Records before (barrier backend.journaled device ⟨number, handle⟩)
      (barrier backend device handle) (numbered number)
      fun answer events =>
        CallRecord number (barrierPlan device stage done) done 0
          (stopOf (Stop.mk stage done) answer.1) events := by
  cases device with
  | cpu => exact records_pure rfl .nil
  | cuda =>
    refine (records_backendBarrier backend number handle).mono ?_
    rintro answer events rfl
    exact .single number ⟨.barrier, stage, done⟩ answer.1

theorem records_untimedCalls {before : List Event} (text : String) (count done number : Nat)
    (handle : H) :
    Records before (untimedCalls backend.journaled text count ⟨number, handle⟩)
      (untimedCalls backend text count handle) (numbered number)
      fun answer events =>
        CallRecord number (List.replicate count ⟨.embed text, .warmup, done⟩) done 0
          (stopOf (Stop.mk .warmup done) answer.1) events := by
  induction count generalizing before handle with
  | zero => exact records_pure rfl .nil
  | succ count ih =>
    refine (records_embed backend number handle text).bind ?_
    rintro ⟨fault | vector, handle⟩ events rfl
    · refine records_pure rfl ?_
      exact (CallRecord.single number ⟨.embed text, .warmup, done⟩ (.error fault)).cut _ _
    · refine (ih handle).mono ?_
      intro answer more made
      exact (CallRecord.single number ⟨.embed text, .warmup, done⟩ (.ok vector)).append made

theorem records_warmUp {before : List Event} (device : Device) (text : String)
    (count done number : Nat) (handle : H) :
    Records before (warmUp backend.journaled device text count ⟨number, handle⟩)
      (warmUp backend device text count handle) (numbered number)
      fun answer events =>
        CallRecord number (warmUpPlan device text count done) done 0
          (stopOf (Stop.mk .warmup done) answer.1) events := by
  refine (records_untimedCalls backend text count done number handle).bind ?_
  rintro ⟨fault | _, handle⟩ events made
  · refine records_pure rfl ?_
    rw [List.append_nil]
    exact made.cut _ _
  · refine (records_barrier backend device .warmup done number handle).mono ?_
    intro answer more waited
    exact made.append waited

theorem records_timedCall {before : List Event} (device : Device) (text : String)
    (done number : Nat) (handle : H) :
    Records before (timedCall backend.journaled observer.journaled device text ⟨number, handle⟩)
      (timedCall backend observer device text handle) (numbered number)
      fun answer events =>
        CallRecord number (timedCallPlan device text done) done 0
          (stopOf (Stop.mk .timing done) answer.1) events := by
  refine (records_now observer).bind ?_
  rintro start events rfl
  refine (records_embed backend number handle text).bind ?_
  rintro ⟨fault | vector, handle⟩ events rfl
  · refine records_pure rfl ?_
    exact (CallRecord.single number ⟨.embed text, .timing, done⟩ (.error fault)).cut _ _
  · have embedded := CallRecord.single number ⟨.embed text, .timing, done⟩ (.ok vector)
    refine (records_barrier backend device .timing done number handle).bind ?_
    rintro ⟨fault | _, handle⟩ more waited
    · refine records_pure rfl ?_
      rw [List.append_nil]
      exact embedded.append waited
    · refine (records_now observer).bind ?_
      rintro stop quiet rfl
      refine records_pure rfl ?_
      rw [List.append_nil, List.append_nil]
      exact embedded.append waited

/-- What a counted failure says of its call. -/
def countedStop (failure : CountedFault) : Stop := ⟨.timing, failure.1, failure.2⟩

theorem records_timedCalls {before : List Event} (device : Device) (text : String)
    (count done number : Nat) (handle : H) :
    Records before
      (timedCalls backend.journaled observer.journaled device text count done ⟨number, handle⟩)
      (timedCalls backend observer device text count done handle) (numbered number)
      fun answer events =>
        CallRecord number (timedCallsPlan device text count done) done count
          (stopOf countedStop answer.1) events ∧
        ∀ samples, answer.1 = .ok samples → samples.length = count := by
  induction count generalizing before done handle with
  | zero =>
    refine records_pure rfl ⟨.nil, ?_⟩
    rintro samples ⟨⟩
    rfl
  | succ count ih =>
    have plan : timedCallsPlan device text (count + 1) done =
        timedCallPlan device text done ++ timedCallsPlan device text count (done + 1) := rfl
    refine (records_timedCall backend observer device text done number handle).bind ?_
    rintro ⟨fault | sample, handle⟩ events called
    · refine records_pure rfl ⟨?_, by rintro samples ⟨⟩⟩
      rw [List.append_nil, plan]
      exact called.cut _ _
    · refine (records_advance observer 1).bind ?_
      rintro _ moved rfl
      -- the bar moves between two calls, so its step belongs to neither of them
      have counted : CallRecord number (timedCallPlan device text done) done 1 none
          (events ++ [.advance 1]) := called.followedBy [.advance 1] rfl
      refine (ih (done + 1) handle).bind ?_
      rintro ⟨failure | samples, handle⟩ more ⟨rest, measured⟩
      · refine records_pure rfl ⟨?_, by rintro samples ⟨⟩⟩
        rw [List.append_nil, ← List.append_assoc, plan, Nat.add_comm count]
        exact counted.append rest
      · refine records_pure rfl ⟨?_, ?_⟩
        · rw [List.append_nil, ← List.append_assoc, plan, Nat.add_comm count]
          exact counted.append rest
        · rintro _ ⟨⟩
          rw [List.length_cons, measured samples rfl]

/-- What a failed unit says of its last call. -/
def UnitFault.stop (failure : UnitFault) : Stop :=
  ⟨failure.stage, failure.completed, failure.source⟩

/-- A failure is one of the model's unit, and results are as they should be. -/
def LoadedModel.Answers {α : Type} (model : LoadedModel) (good : α → Prop) :
    Except UnitFault α → Prop
  | .ok answer => good answer
  | .error failure => failure.entry = model.entry ∧ failure.device = model.device

theorem records_runQuery {before : List Event} (reps : Repetitions) (model : LoadedModel)
    (query : QuerySize) (done number : Nat) (handle : H) :
    Records before
      (runQuery backend.journaled observer.journaled reps model query done ⟨number, handle⟩)
      (runQuery backend observer reps model query done handle) (numbered number)
      fun answer events =>
        CallRecord number (queryPlan reps model.device query done) done reps.iterations
          (stopOf UnitFault.stop answer.1) events ∧
        model.Answers
          (fun result => ∃ samples, samples.length = reps.iterations ∧
            result = model.result query samples) answer.1 := by
  refine (records_warmUp backend model.device query.text reps.warmup done number handle).bind ?_
  rintro ⟨fault | _, handle⟩ events warm
  · refine records_pure rfl ⟨?_, rfl, rfl⟩
    rw [List.append_nil]
    exact warm.cut _ _
  · refine (records_timedCalls backend observer model.device query.text reps.iterations done number
      handle).bind ?_
    rintro ⟨⟨completed, fault⟩ | samples, handle⟩ more ⟨timed, measured⟩
    · refine records_pure rfl ⟨?_, rfl, rfl⟩
      rw [List.append_nil, ← Nat.zero_add reps.iterations]
      exact warm.append timed
    · refine (records_log observer _).bind ?_
      rintro _ said rfl
      refine records_pure rfl ⟨?_, samples, measured samples rfl, rfl⟩
      rw [List.append_nil, ← List.append_assoc, ← Nat.zero_add reps.iterations]
      exact (warm.append timed).followedBy [.log _] rfl

theorem records_runQueries {before : List Event} (reps : Repetitions) (model : LoadedModel)
    (queries : List QuerySize) (done number : Nat) (handle : H) :
    Records before
      (runQueries backend.journaled observer.journaled reps model queries done ⟨number, handle⟩)
      (runQueries backend observer reps model queries done handle) (numbered number)
      fun answer events =>
        CallRecord number (queriesPlan reps model.device queries done) done
          (queries.length * reps.iterations) (stopOf UnitFault.stop answer.1) events ∧
        model.Answers
          (fun results => ∃ samples : List (List Float), samples.length = queries.length ∧
            (∀ series ∈ samples, series.length = reps.iterations) ∧
            results = queries.zipWith model.result samples) answer.1 := by
  induction queries generalizing before done handle with
  | nil =>
    refine records_pure rfl ⟨?_, [], rfl, by simp, rfl⟩
    rw [List.length_nil, Nat.zero_mul]
    exact .nil
  | cons query rest ih =>
    have share : (query :: rest).length * reps.iterations =
        reps.iterations + rest.length * reps.iterations := by
      rw [List.length_cons, Nat.succ_mul, Nat.add_comm]
    refine (records_runQuery backend observer reps model query done number handle).bind ?_
    rintro ⟨failure | result, handle⟩ events ⟨first, told⟩
    · refine records_pure rfl ⟨?_, told⟩
      rw [List.append_nil]
      exact first.cut _ _
    · obtain ⟨series, full, rfl⟩ := told
      refine (ih (done + reps.iterations) handle).bind ?_
      rintro ⟨failure | results, handle⟩ more ⟨others, toldLater⟩
      · refine records_pure rfl ⟨?_, toldLater⟩
        rw [List.append_nil, share]
        exact first.append others
      · obtain ⟨samples, count, each, rfl⟩ := toldLater
        refine records_pure rfl ⟨?_, series :: samples, ?_, ?_, rfl⟩
        · rw [List.append_nil, share]
          exact first.append others
        · rw [List.length_cons, count, List.length_cons]
        · rintro some (_ | ⟨_, member⟩)
          · exact full
          · exact each some member

/-- A loaded model with a numbered handle. -/
abbrev numberedModel (number : Nat) (loaded : H × ModelFacts × Float) :
    Numbered H × ModelFacts × Float := (⟨number, loaded.1⟩, loaded.2)

/-- The requests that load a model; only a loaded one is described. -/
def loadingEvents (entry : ListedModel) (device : Device) (number : Nat) :
    Except Fault (H × ModelFacts × Float) → List Event
  | .error fault => [.load entry device (some fault)]
  | .ok (_, info, _) => [.load entry device none, .describe number entry info]

theorem records_loadModel {before : List Event} (entry : ListedModel) (device : Device) :
    Records before (loadModel backend.journaled observer.journaled entry device)
      (loadModel backend observer entry device) (Except.map (numberedModel (loadCount before)))
      fun answer events => events = loadingEvents entry device (loadCount before) answer := by
  refine (records_now observer).bind ?_
  rintro start events rfl
  rw [List.append_nil]
  refine (records_load backend entry device).bind ?_
  rintro (fault | handle) events rfl
  · exact records_pure rfl rfl
  · refine (records_now observer).bind ?_
    rintro stop quiet rfl
    refine (records_describe backend (loadCount before) entry handle).bind ?_
    rintro info events rfl
    exact records_pure rfl rfl

end Calls

/-- A unit with its requests. The events of requests say which of them have failed. -/
inductive UnitRun (reps : Repetitions) (entry : ListedModel) (device : Device) (number : Nat) :
    Except UnitFault (List LatencySeries) → List Event → Prop
  | notLoaded (fault : Fault) :
      UnitRun reps entry device number (.error ⟨entry, device, .load, 0, fault⟩)
        [.load entry device (some fault)]
  /-- All calls of the plan in front of one that fails, which ends the unit. -/
  | interrupted (info : ModelFacts) {made left : List PlannedCall} {call : PlannedCall}
      (split : unitPlan reps device = made ++ call :: left) (fault : Fault) :
      UnitRun reps entry device number
        (.error ⟨entry, device, call.stage, call.completed, fault⟩)
        ([.load entry device none, .describe number entry info] ++
          (made.map (·.event number none) ++ [call.event number (some fault)]) ++ [.release number])
  /-- The whole plan, and one series of full length for each query size. -/
  | completed (info : ModelFacts) (loadTime : Float) {short medium long : List Float}
      (shortFull : short.length = reps.iterations) (mediumFull : medium.length = reps.iterations)
      (longFull : long.length = reps.iterations) :
      UnitRun reps entry device number
        (.ok
          [LoadedModel.result ⟨entry, device, info, loadTime⟩ .short short,
            LoadedModel.result ⟨entry, device, info, loadTime⟩ .medium medium,
            LoadedModel.result ⟨entry, device, info, loadTime⟩ .long long])
        ([.load entry device none, .describe number entry info] ++
          (unitPlan reps device).map (·.event number none) ++ [.release number])

/-- The number of timed calls of a whole unit, however large. -/
def Repetitions.callCount (reps : Repetitions) : Nat := reps.iterations * QuerySize.all.length

/-- How far a unit moves the progress bar: by one step for each timed call that is complete. -/
def unitProgress (reps : Repetitions) : Except UnitFault (List LatencySeries) → Nat
  | .ok _ => reps.callCount
  | .error failure => failure.completed

theorem UnitRun.loadCount_eq {reps : Repetitions} {entry : ListedModel} {device : Device}
    {number : Nat} {outcome : Except UnitFault (List LatencySeries)} {calls : List Event}
    (run : UnitRun reps entry device number outcome calls) : loadCount calls = 1 := by
  cases run with
  | notLoaded fault => rfl
  | interrupted info split fault =>
    rw [loadCount_append, loadCount_append, loadCount_append, loadCount_planned, loadCount_event]
    rfl
  | completed info loadTime shortFull mediumFull longFull =>
    rw [loadCount_append, loadCount_append, loadCount_planned]
    rfl

/-- A failed unit has not moved the progress bar further than a whole one does. -/
theorem UnitRun.progress_le {reps : Repetitions} {entry : ListedModel} {device : Device}
    {number : Nat} {outcome : Except UnitFault (List LatencySeries)} {calls : List Event}
    (run : UnitRun reps entry device number outcome calls) :
    unitProgress reps outcome ≤ reps.callCount := by
  cases run with
  | notLoaded fault => exact Nat.zero_le _
  | @interrupted info made left call split fault =>
    have member : call ∈ unitPlan reps device := by
      rw [split]
      exact List.mem_append_right _ List.mem_cons_self
    have bound := completed_le_of_mem_queriesPlan member
    rwa [Nat.zero_add, Nat.mul_comm] at bound
  | completed info loadTime shortFull mediumFull longFull => exact Nat.le_refl _

/-- A unit whose model is loaded goes as the calls of its plan do. -/
theorem unitRun_of_made {reps : Repetitions} {entry : ListedModel} {device : Device} {number : Nat}
    {outcome : Except UnitFault (List LatencySeries)} {calls : List Event} (info : ModelFacts)
    (loadTime : Float)
    (made : Made number (unitPlan reps device) (stopOf UnitFault.stop outcome) calls)
    (told : LoadedModel.Answers ⟨entry, device, info, loadTime⟩
      (fun results => ∃ samples : List (List Float), samples.length = QuerySize.all.length ∧
        (∀ series ∈ samples, series.length = reps.iterations) ∧
        results = QuerySize.all.zipWith
          (LoadedModel.result ⟨entry, device, info, loadTime⟩) samples)
      outcome) :
    UnitRun reps entry device number outcome
      ([.load entry device none, .describe number entry info] ++ calls ++ [.release number]) := by
  cases outcome with
  | ok results =>
    obtain ⟨samples, count, full, rfl⟩ := told
    obtain ⟨short, medium, long, rfl⟩ := List.length_eq_three.mp count
    cases made
    exact .completed info loadTime (full _ (by simp)) (full _ (by simp)) (full _ (by simp))
  | error failure =>
    obtain ⟨_, _, stage, completed, fault⟩ := failure
    obtain ⟨rfl, rfl⟩ := told
    cases made with
    | upTo split fault => exact .interrupted info split fault

theorem records_measureUnit {σ H : Type} (backend : Backend (StateM σ) H)
    (observer : Observer (StateM σ)) {before : List Event} (reps : Repetitions)
    (entry : ListedModel) (device : Device) :
    Records before (measureUnit backend.journaled observer.journaled reps entry device)
      (measureUnit backend observer reps entry device) id
      fun outcome events =>
        UnitRun reps entry device (loadCount before) outcome (requests events) ∧
        position events = unitProgress reps outcome := by
  refine (records_loadModel backend observer entry device).bind ?_
  rintro (fault | ⟨handle, info, loadTime⟩) loading rfl
  · exact records_pure rfl ⟨.notLoaded fault, rfl⟩
  · refine (records_log observer _).bind ?_
    rintro _ said rfl
    refine (records_runQueries backend observer reps ⟨entry, device, info, loadTime⟩ QuerySize.all 0
      (loadCount before) handle).bind ?_
    rintro ⟨outcome, handle⟩ calls ⟨made, told⟩
    refine (records_release backend (loadCount before) handle).bind ?_
    rintro _ dropped rfl
    refine records_pure rfl ⟨?_, ?_⟩
    · have run := unitRun_of_made info loadTime made.calls told
      simpa [requests, loadingEvents, Event.isRequest] using run
    · have moved := made.moved
      cases outcome <;>
        simpa [Event.progress, loadingEvents, unitProgress, stopOf, UnitFault.stop,
          Repetitions.callCount, Nat.mul_comm] using moved

/-- **The calls of a unit.** Whatever the backend answers, a journaled unit gives the outcome of the
    plain one, makes the calls of its plan up to the first that fails, and then only releases the
    handle. The progress bar moves by the number of timed calls that are complete. -/
theorem unit_follows_plan {σ H : Type} (backend : Backend (StateM σ) H)
    (observer : Observer (StateM σ)) (reps : Repetitions) (entry : ListedModel) (device : Device)
    (before : List Event) (world : σ) :
    ∃ outcome events world',
      (measureUnit backend observer reps entry device).run world = (outcome, world') ∧
      ((measureUnit backend.journaled observer.journaled reps entry device).run
        before.toArray).run world = ((outcome, (before ++ events).toArray), world') ∧
      UnitRun reps entry device (loadCount before) outcome (requests events) ∧
      position events = unitProgress reps outcome := by
  obtain ⟨events, run, calls, moved⟩ :=
    records_measureUnit backend observer reps entry device world
  exact ⟨_, events, _, rfl, run, calls, moved⟩

/-- A unit without timing, with its requests. -/
inductive InspectionRun (entry : ListedModel) (number : Nat) :
    Except UnitFault (List LatencySeries) → List Event → Prop
  | notLoaded (fault : Fault) :
      InspectionRun entry number (.error ⟨entry, .cpu, .load, 0, fault⟩)
        [.load entry .cpu (some fault)]
  | inspected (info : ModelFacts) (loadTime : Float) :
      InspectionRun entry number
        (.ok (QuerySize.all.map fun query =>
          LoadedModel.result ⟨entry, .cpu, info, loadTime⟩ query [0.0]))
        [.load entry .cpu none, .describe number entry info, .release number]

theorem InspectionRun.loadCount_eq {entry : ListedModel} {number : Nat}
    {outcome : Except UnitFault (List LatencySeries)} {calls : List Event}
    (run : InspectionRun entry number outcome calls) : loadCount calls = 1 := by
  cases run <;> rfl

theorem records_inspectUnit {σ H : Type} (backend : Backend (StateM σ) H)
    (observer : Observer (StateM σ)) {before : List Event} (entry : ListedModel) :
    Records before (inspectUnit backend.journaled observer.journaled entry)
      (inspectUnit backend observer entry) id
      fun outcome events =>
        InspectionRun entry (loadCount before) outcome (requests events) ∧ position events = 0 := by
  refine (records_loadModel backend observer entry .cpu).bind ?_
  rintro (fault | ⟨handle, info, loadTime⟩) loading rfl
  · exact records_pure rfl ⟨.notLoaded fault, rfl⟩
  · refine (records_release backend (loadCount before) handle).bind ?_
    rintro _ dropped rfl
    exact records_pure rfl ⟨.inspected info loadTime, rfl⟩

end EmbeddingLatency.Bench
