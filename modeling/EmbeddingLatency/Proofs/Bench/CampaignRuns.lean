import EmbeddingLatency.Bench.Campaign
import EmbeddingLatency.Proofs.Bench.UnitRuns
import EmbeddingLatency.Rehearsal.Units

/-!
# The units of a campaign

A campaign takes its units in a fixed order. `Turns` splits the journal of a campaign into the turns
of its units: each unit goes in one of the ways that a unit can go, leaves its results only if it
succeeds, and moves the progress bar as its outcome says. The theorems about whole campaigns are
inductions on these turns.

A unit that fails moves the bar by what is left of its budget, and the budget is a word. As
long as the timed calls of a unit fit in it every unit moves the bar by the same share, whether
it fails or not.
-/

set_option autoImplicit false

namespace EmbeddingLatency.Bench

/-- A unit of a campaign: an entry and the device that it runs on. -/
abbrev UnitPlace := Device × ListedModel

/-- The results that a unit leaves behind; a failed one leaves none. -/
def kept : Except UnitFault (List LatencySeries) → List LatencySeries
  | .ok results => results
  | .error _ => []

/-- The turns of some units, the first of which has the given number: their results and events.
    `goes` says how a unit can go, and `moves` by how much an outcome moves the progress bar. -/
inductive Turns
    (goes : Nat → UnitPlace → Except UnitFault (List LatencySeries) → List Event → Prop)
    (moves : Except UnitFault (List LatencySeries) → Nat) :
    Nat → List UnitPlace → List LatencySeries → List Event → Prop
  | done (number : Nat) : Turns goes moves number [] [] []
  | turn {number : Nat} {place : UnitPlace} {rest : List UnitPlace}
      {outcome : Except UnitFault (List LatencySeries)} {later : List LatencySeries}
      {events more : List Event} (unit : goes number place outcome (requests events))
      (moved : position events = moves outcome)
      (others : Turns goes moves (number + 1) rest later more) :
      Turns goes moves number (place :: rest) (kept outcome ++ later) (events ++ more)

theorem loadCount_requests (events : List Event) :
    loadCount (requests events) = loadCount events := by
  rw [loadCount, requests, List.countP_filter, loadCount]
  congr 1
  funext event
  cases event <;> rfl

namespace Turns

variable {goes : Nat → UnitPlace → Except UnitFault (List LatencySeries) → List Event → Prop}
  {moves : Except UnitFault (List LatencySeries) → Nat} {number : Nat} {places : List UnitPlace}
  {results : List LatencySeries} {events : List Event}

theorem append {places' : List UnitPlace} {results' : List LatencySeries} {events' : List Event}
    (first : Turns goes moves number places results events)
    (second : Turns goes moves (number + places.length) places' results' events') :
    Turns goes moves number (places ++ places') (results ++ results') (events ++ events') := by
  induction first with
  | done number => exact second
  | turn unit moved others ih =>
    rw [List.append_assoc, List.append_assoc]
    refine .turn unit moved (ih ?_)
    rw [List.length_cons, Nat.add_comm _ 1, ← Nat.add_assoc] at second
    exact second

/-- Units that all move the bar by one share move it by their number of shares. -/
theorem position_eq {share : Nat}
    (even : ∀ number place outcome calls, goes number place outcome calls → moves outcome = share)
    (turns : Turns goes moves number places results events) :
    position events = places.length * share := by
  induction turns with
  | done number => rw [List.length_nil, Nat.zero_mul]; rfl
  | turn unit moved others ih =>
    rw [position_append, moved, even _ _ _ _ unit, ih, List.length_cons, Nat.succ_mul, Nat.add_comm]

/-- A unit asks for one load, so the numbers of the units follow one another. -/
theorem loadCount_eq
    (once : ∀ number place outcome calls, goes number place outcome calls → loadCount calls = 1)
    (turns : Turns goes moves number places results events) : loadCount events = places.length := by
  induction turns with
  | done number => rfl
  | turn unit moved others ih =>
    rw [loadCount_append, ← loadCount_requests, once _ _ _ _ unit, ih, List.length_cons,
      Nat.add_comm]

/-- A turn is a unit with what is announced before it and what is said and counted behind it. -/
theorem framed {place : UnitPlace} {outcome : Except UnitFault (List LatencySeries)}
    {unitEvents : List Event} (opening closing : List Event) (quiet : requests opening = [])
    (quiet' : requests closing = []) (unit : goes number place outcome (requests unitEvents))
    (moved : position opening + (position unitEvents + position closing) = moves outcome)
    (others : Turns goes moves (number + 1) places results events) :
    Turns goes moves number (place :: places) (kept outcome ++ results)
      (opening ++ (unitEvents ++ (closing ++ events))) := by
  rw [← List.append_assoc unitEvents, ← List.append_assoc opening]
  refine .turn ?_ ?_ others
  · rwa [requests_append, requests_append, quiet, quiet', List.nil_append, List.append_nil]
  · rw [position_append, position_append, moved]

end Turns

/-- By how much a timed unit moves the progress bar: by its own steps and by what is left of the
    budget if it fails. -/
def timedMoves (reps : Repetitions) (outcome : Except UnitFault (List LatencySeries)) : Nat :=
  unitProgress reps outcome +
    match outcome with
    | .ok _ => 0
    | .error failure => reps.budget.toNat - failure.completed

section Goes

variable {σ H : Type} (backend : Backend (StateM σ) H) (observer : Observer (StateM σ))

/-- How a timed unit goes. -/
def timedGoes (reps : Repetitions) (number : Nat) (place : UnitPlace)
    (outcome : Except UnitFault (List LatencySeries)) (calls : List Event) : Prop :=
  UnitRun reps place.2 place.1 number outcome calls ∧
    Gives (measureUnit backend observer reps place.2 place.1) outcome

/-- How a unit of a dry run goes. -/
def dryGoes (number : Nat) (place : UnitPlace) (outcome : Except UnitFault (List LatencySeries))
    (calls : List Event) : Prop :=
  place.1 = .cpu ∧ InspectionRun place.2 number outcome calls ∧
    Gives (inspectUnit backend observer place.2) outcome

end Goes

namespace Campaign

section

variable {σ H : Type} (backend : Backend (StateM σ) H) (observer : Observer (StateM σ))

theorem records_timedUnits {before : List Event} (reps : Repetitions) (device : Device)
    (entries : List ListedModel) :
    Records before (timedUnits backend.journaled observer.journaled reps device entries)
      (timedUnits backend observer reps device entries) id
      fun results events =>
        Turns (timedGoes backend observer reps) (timedMoves reps) (loadCount before)
          (entries.map (device, ·)) results events := by
  induction entries generalizing before with
  | nil => exact records_pure rfl (.done _)
  | cons entry rest ih =>
    refine (records_announce observer _).bind ?_
    rintro _ announced rfl
    refine (records_measureUnit backend observer reps entry device).given.bind ?_
    rintro outcome events ⟨⟨run, moved⟩, given⟩
    rw [loadCount_append, loadCount_announce, Nat.add_zero] at run
    have once : loadCount events = 1 := by rw [← loadCount_requests, run.loadCount_eq]
    cases outcome with
    | ok results =>
      refine ih.bind ?_
      intro later more others
      refine records_pure rfl ?_
      simp only [loadCount_append, loadCount_announce, once, Nat.add_zero] at others
      change Turns _ _ _ _ (kept (.ok results) ++ later) _
      rw [List.append_nil]
      refine .framed [.announce _] [] rfl rfl ⟨run, given⟩ ?_ others
      simpa [Event.progress, timedMoves] using moved
    | error failure =>
      refine (records_log observer _).bind ?_
      rintro _ said rfl
      refine (records_advance observer _).bind ?_
      rintro _ stepped rfl
      refine ih.mono ?_
      intro later more others
      simp only [loadCount_append, loadCount_announce, loadCount_log, loadCount_advance, once,
        Nat.add_zero] at others
      change Turns _ _ _ _ (kept (.error failure) ++ later) _
      refine .framed [.announce _] [.log _, .advance _] rfl rfl ⟨run, given⟩ ?_ others
      simp [Event.progress, timedMoves, moved]

theorem records_timedUnitsOn {before : List Event} (reps : Repetitions)
    (entries : List ListedModel) (devices : List Device) :
    Records before (timedUnitsOn backend.journaled observer.journaled reps entries devices)
      (timedUnitsOn backend observer reps entries devices) id
      fun results events =>
        Turns (timedGoes backend observer reps) (timedMoves reps) (loadCount before)
          (devices.flatMap fun device => entries.map (device, ·)) results events := by
  induction devices generalizing before with
  | nil => exact records_pure rfl (.done _)
  | cons device rest ih =>
    refine (records_timedUnits backend observer reps device entries).bind ?_
    intro results events first
    refine ih.bind ?_
    intro later more others
    refine records_pure rfl ?_
    rw [loadCount_append, first.loadCount_eq fun _ _ _ _ goes => goes.1.loadCount_eq] at others
    rw [List.append_nil, List.flatMap_cons]
    exact first.append others

theorem records_dryUnits {before : List Event} (entries : List ListedModel) :
    Records before (dryUnits backend.journaled observer.journaled entries)
      (dryUnits backend observer entries) id
      fun results events =>
        Turns (dryGoes backend observer) (fun _ => 1) (loadCount before)
          (entries.map (Device.cpu, ·)) results events := by
  induction entries generalizing before with
  | nil => exact records_pure rfl (.done _)
  | cons entry rest ih =>
    refine (records_announce observer _).bind ?_
    rintro _ announced rfl
    refine (records_inspectUnit backend observer entry).given.bind ?_
    rintro outcome events ⟨⟨run, still⟩, given⟩
    rw [loadCount_append, loadCount_announce, Nat.add_zero] at run
    have once : loadCount events = 1 := by rw [← loadCount_requests, run.loadCount_eq]
    cases outcome with
    | ok results =>
      refine (records_advance observer 1).bind ?_
      rintro _ stepped rfl
      refine ih.bind ?_
      intro later more others
      refine records_pure rfl ?_
      simp only [loadCount_append, loadCount_announce, loadCount_advance, once, Nat.add_zero]
        at others
      change Turns _ _ _ _ (kept (.ok results) ++ later) _
      rw [List.append_nil]
      refine .framed [.announce _] [.advance 1] rfl rfl ⟨rfl, run, given⟩ ?_ others
      rw [still]
      rfl
    | error failure =>
      refine (records_log observer _).bind ?_
      rintro _ said rfl
      refine (records_advance observer 1).bind ?_
      rintro _ stepped rfl
      refine ih.mono ?_
      intro later more others
      simp only [loadCount_append, loadCount_announce, loadCount_log, loadCount_advance, once,
        Nat.add_zero] at others
      change Turns _ _ _ _ (kept (.error failure) ++ later) _
      refine .framed [.announce _] [.log _, .advance 1] rfl rfl ⟨rfl, run, given⟩ ?_ others
      rw [still]
      rfl

/-- The units of a campaign in the order in which they run. -/
def places (c : Campaign) (accelerator : Bool) : List UnitPlace :=
  if c.plan.dryRun then c.catalog.entries.map (Device.cpu, ·)
  else (c.devices accelerator).flatMap fun device => c.catalog.entries.map (device, ·)

/-- How a unit of a campaign goes. -/
def goes (c : Campaign) :
    Nat → UnitPlace → Except UnitFault (List LatencySeries) → List Event → Prop :=
  if c.plan.dryRun then dryGoes backend observer else timedGoes backend observer c.repetitions

/-- By how much a unit of a campaign moves the progress bar. -/
def moves (c : Campaign) : Except UnitFault (List LatencySeries) → Nat :=
  if c.plan.dryRun then fun _ => 1 else timedMoves c.repetitions

theorem records_units {before : List Event} (c : Campaign) :
    Records before (units backend.journaled observer.journaled c) (units backend observer c) id
      fun results events =>
        Turns (c.goes backend observer) c.moves (loadCount before) (c.places backend.accelerator)
          results events := by
  by_cases dry : c.plan.dryRun = true
  · simp only [units, goes, moves, places, if_pos dry]
    exact records_dryUnits backend observer c.catalog.entries
  · simp only [units, goes, moves, places, if_neg dry]
    exact records_timedUnitsOn backend observer c.repetitions c.catalog.entries _

/-- A whole campaign: the turns of its units, between what the log says at both ends. -/
theorem records_run {before : List Event} (c : Campaign) (machine : StateM σ Hardware)
    (date : StateM σ Timestamp) :
    Records before (c.run backend.journaled observer.journaled (liftM machine) (liftM date))
      (c.run backend observer machine date) id
      fun results events => ∃ first turns last,
        events = .log first :: (turns ++ [.log last]) ∧
        Turns (c.goes backend observer) c.moves (loadCount before) (c.places backend.accelerator)
          results.timings turns := by
  refine (records_now observer).bind ?_
  rintro start events rfl
  refine (records_lift machine).bind ?_
  rintro hardware events rfl
  refine (records_lift date).bind ?_
  rintro startedAt events rfl
  refine (records_log observer _).bind ?_
  rintro _ begun rfl
  refine (records_units backend observer c).bind ?_
  intro timings turns run
  simp only [loadCount_append, loadCount_log, List.append_nil, Nat.add_zero] at run
  refine (records_now observer).bind ?_
  rintro stop events rfl
  refine (records_log observer _).bind ?_
  rintro _ ended rfl
  exact records_pure rfl ⟨_, turns, _, rfl, run⟩

end

/-- The number of steps of a whole run, however large: one a model in a dry run, else one
    a timed call. -/
def stepCount (c : Campaign) (accelerator : Bool) : Nat :=
  let models := c.catalog.entries.length
  if c.plan.dryRun then models
  else models * (c.devices accelerator).length * c.repetitions.callCount

/-- A budget is the number of timed calls, as far as a word holds it. -/
theorem budget_eq (reps : Repetitions) : reps.budget = .ofNat reps.callCount :=
  (UInt64.ofNat_mul _ _).symm

/-- The length of the bar is the number of steps, as far as a word holds it. -/
theorem progressLength_eq (c : Campaign) (accelerator : Bool) :
    c.progressLength accelerator = .ofNat (c.stepCount accelerator) := by
  unfold progressLength stepCount
  by_cases dry : c.plan.dryRun = true
  · simp only [if_pos dry]
  · simp only [if_neg dry, budget_eq, UInt64.ofNat_mul]

/-- All units together take the steps of a run, each of them its share. -/
theorem stepCount_eq (c : Campaign) (accelerator : Bool) :
    c.stepCount accelerator =
      (c.places accelerator).length * if c.plan.dryRun then 1 else c.repetitions.callCount := by
  by_cases dry : c.plan.dryRun = true
  · simp [stepCount, places, dry]
  · simp [stepCount, places, dry, List.length_flatMap, Nat.mul_comm]

/-- What is left of a budget that fits is exact, as no unit moves the bar beyond it. -/
theorem timedMoves_eq {reps : Repetitions} (fits : reps.callCount < UInt64.size)
    {entry : ListedModel} {device : Device} {number : Nat}
    {outcome : Except UnitFault (List LatencySeries)} {calls : List Event}
    (run : UnitRun reps entry device number outcome calls) :
    timedMoves reps outcome = reps.callCount := by
  have within := run.progress_le
  cases outcome with
  | ok results => rfl
  | error failure =>
    rw [timedMoves, unitProgress, budget_eq, UInt64.toNat_ofNat_of_lt' fits]
    exact Nat.add_sub_of_le within

theorem position_turns {σ H : Type} {backend : Backend (StateM σ) H}
    {observer : Observer (StateM σ)}
    {c : Campaign} {number : Nat} {results : List LatencySeries} {turns : List Event}
    (fits : c.stepCount backend.accelerator < UInt64.size)
    (whole : Turns (c.goes backend observer) c.moves number (c.places backend.accelerator) results
      turns) :
    position turns = c.stepCount backend.accelerator := by
  rw [stepCount_eq] at fits ⊢
  by_cases dry : c.plan.dryRun = true
  · simp only [moves, if_pos dry] at whole ⊢
    exact whole.position_eq fun _ _ _ _ _ => rfl
  · simp only [goes, moves, if_neg dry] at whole fits ⊢
    -- without units there is nothing to move, and with one of them a share is no more
    -- than the whole
    cases units : c.places backend.accelerator with
    | nil =>
      rw [units] at whole
      cases whole
      rw [List.length_nil, Nat.zero_mul]
      rfl
    | cons place rest =>
      have share : c.repetitions.callCount < UInt64.size := by
        refine Nat.lt_of_le_of_lt (Nat.le_mul_of_pos_left _ ?_) fits
        rw [units]
        exact Nat.succ_pos _
      rw [← units]
      exact whole.position_eq fun _ _ _ _ goes => timedMoves_eq share goes.1

/-- **Progress.** If the number of its steps fits in a word, a run moves the progress bar forward
    only, never beyond its length, and to its length exactly, whatever the backend answers. -/
theorem run_fills_progress {σ H : Type} (backend : Backend (StateM σ) H)
    (observer : Observer (StateM σ)) (c : Campaign)
    (fits : c.stepCount backend.accelerator < UInt64.size) (machine : StateM σ Hardware)
    (date : StateM σ Timestamp) (world : σ) :
    ∃ results events world',
      (c.run backend observer machine date).run world = (results, world') ∧
      ((c.run backend.journaled observer.journaled (liftM machine) (liftM date)).run
        #[]).run world =
        ((results, events.toArray), world') ∧
      (∀ early late left, events = early ++ late ++ left →
        position early ≤ position (early ++ late)) ∧
      (∀ early left, events = early ++ left →
        position early ≤ (c.progressLength backend.accelerator).toNat) ∧
      position events = (c.progressLength backend.accelerator).toNat ∧
      (c.progressLength backend.accelerator).toNat = c.stepCount backend.accelerator := by
  obtain ⟨events, run, first, turns, last, split, whole⟩ :=
    (records_run backend observer c machine date).fromEmpty world
  have length : (c.progressLength backend.accelerator).toNat = c.stepCount backend.accelerator := by
    rw [progressLength_eq, UInt64.toNat_ofNat_of_lt' fits]
  have full : position events = (c.progressLength backend.accelerator).toNat := by
    rw [length, ← position_turns fits whole, split]
    simp [Event.progress]
  refine ⟨_, events, _, rfl, run, ?_, ?_, full, length⟩
  · intro early late left _
    rw [position_append]
    exact Nat.le_add_right _ _
  · rintro early left rfl
    rw [← full, position_append]
    exact Nat.le_add_right _ _

/-- A campaign of two models on the CPU, with one timed call for each query. -/
def twoModels : Campaign :=
  ⟨⟨[⟨"small", "minilm", .dense⟩, ⟨"sparse-small", "splade", .sparse⟩]⟩, ⟨1, 0, .quick, false⟩,
    .cpuOnly⟩

/-- A rehearsal without failures. -/
def soundScript : Rehearsal.Script := ⟨false, .unknown, []⟩

/-- A rehearsal in which one of the models fails when a part of it has been timed. -/
def weakScript : Rehearsal.Script :=
  { soundScript with failures := [⟨some "minilm", none, .embed 2, .inference "no shape"⟩] }

/-- An observer whose clock goes on with every look at it. -/
def tickingObserver : Observer (StateM Nat) where
  now := modifyGet fun time => (time, time + 1)
  advance _ := pure ()
  announce _ := pure ()
  log _ := pure ()

/-- A unit that fails when a part of it has been timed leaves the bar where the whole unit would. -/
theorem weakScript_fills_progress :
    twoModels.stepCount false < UInt64.size ∧ ∃ results events world',
      (twoModels.run weakScript.backend tickingObserver (pure .unknown) (pure ⟨0, 0⟩)).run 0 =
        (results, world') ∧
      ((twoModels.run weakScript.backend.journaled tickingObserver.journaled (pure .unknown)
        (pure ⟨0, 0⟩)).run #[]).run 0 = ((results, events.toArray), world') ∧
      position events = 6 := by
  have fits : twoModels.stepCount false < UInt64.size := by decide
  obtain ⟨results, events, world', run, journaled, -, -, full, length⟩ :=
    run_fills_progress weakScript.backend tickingObserver twoModels fits (pure .unknown)
      (pure ⟨0, 0⟩) 0
  exact ⟨fits, results, events, world', run, journaled, full.trans length⟩

end Campaign

end EmbeddingLatency.Bench
