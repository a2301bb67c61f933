import EmbeddingLatency.Proofs.Bench.CampaignRuns

/-!
# Isolated units

What a unit leaves behind depends on its own calls only. The results of a campaign are those of its
units, each as it would be alone, and a unit that fails leaves no trace in them. So two backends
that answer one unit in different ways give the same results for all others, measured times aside.
-/

set_option autoImplicit false

namespace EmbeddingLatency

/-- A series without the times that were measured; it still says how many there are. -/
def LatencySeries.untimed (r : LatencySeries) : LatencySeries :=
  { r with samples := r.samples.map fun _ => 0.0, loadTime := r.loadTime.map fun _ => 0.0 }

namespace Bench

/-- Is the event a request that has failed? -/
def Event.isFailure : Event → Bool
  | .load _ _ fault => fault.isSome
  | .embed _ _ fault => fault.isSome
  | .embedAll _ _ fault => fault.isSome
  | .barrier _ fault => fault.isSome
  | _ => false

/-- The series of a loaded model when every query has `count` samples, measured times aside. -/
def fullResults (entry : ListedModel) (device : Device) (info : ModelFacts) (count : Nat) :
    List LatencySeries :=
  QuerySize.all.map fun query =>
    LoadedModel.result ⟨entry, device, info, 0.0⟩ query (List.replicate count 0.0)

/-- What a unit with `count` samples for every query leaves behind, measured times aside, as its
    requests tell it. -/
def told (count : Nat) : List Event → List LatencySeries
  | .load entry device none :: .describe _ _ info :: calls =>
    if calls.any (·.isFailure) then [] else fullResults entry device info count
  | _ => []

@[simp] theorem isFailure_event (number : Nat) (fault : Option Fault) (planned : PlannedCall) :
    (planned.event number fault).isFailure = fault.isSome := by
  obtain ⟨_ | _, _, _⟩ := planned <;> rfl

theorem untimed_result (entry : ListedModel) (device : Device) (info : ModelFacts)
    (loadTime : Float) (query : QuerySize) (samples : List Float) :
    (LoadedModel.result ⟨entry, device, info, loadTime⟩ query samples).untimed =
      LoadedModel.result ⟨entry, device, info, 0.0⟩ query (List.replicate samples.length 0.0) := by
  simp [LatencySeries.untimed, LoadedModel.result]

/-- Is the series one of a unit? -/
def UnitPlace.owns (place : UnitPlace) (r : LatencySeries) : Bool :=
  r.modelId = place.2.modelId ∧ r.sizeLabel = place.2.sizeLabel ∧ r.device = place.1

theorem owns_result (place : UnitPlace) (info : ModelFacts) (loadTime : Float) (query : QuerySize)
    (samples : List Float) :
    place.owns (LoadedModel.result ⟨place.2, place.1, info, loadTime⟩ query samples) = true := by
  simp [UnitPlace.owns, LoadedModel.result]

/-- What a unit with `count` samples for every query leaves behind: everything or nothing, and its
    calls settle which, measured times aside. -/
structure Leaves (count : Nat) (place : UnitPlace) (outcome : Except UnitFault (List LatencySeries))
    (calls : List Event) : Prop where
  settled : (kept outcome).map (·.untimed) = told count calls
  owned : ∀ r ∈ kept outcome, place.owns r = true
  full : ∀ results, outcome = .ok results →
    ∃ info, results.map (·.untimed) = fullResults place.2 place.1 info count

/-- A unit that fails leaves nothing. -/
theorem leaves_nothing {count : Nat} {place : UnitPlace} {failure : UnitFault} {calls : List Event}
    (failed : told count calls = []) : Leaves count place (.error failure) calls where
  settled := failed.symm
  owned := by simp [kept]
  full := by rintro results ⟨⟩

theorem UnitRun.leaves {reps : Repetitions} {place : UnitPlace} {number : Nat}
    {outcome : Except UnitFault (List LatencySeries)} {calls : List Event}
    (run : UnitRun reps place.2 place.1 number outcome calls) :
    Leaves reps.iterations place outcome calls := by
  cases run with
  | notLoaded fault => exact leaves_nothing rfl
  | interrupted info split fault => exact leaves_nothing (by simp [told])
  | @completed info loadTime short medium long shortFull mediumFull longFull =>
    have whole : [LoadedModel.result ⟨place.2, place.1, info, loadTime⟩ .short short,
        LoadedModel.result ⟨place.2, place.1, info, loadTime⟩ .medium medium,
        LoadedModel.result ⟨place.2, place.1, info, loadTime⟩ .long long].map (·.untimed) =
          fullResults place.2 place.1 info reps.iterations := by
      simp [fullResults, QuerySize.all, untimed_result, shortFull, mediumFull, longFull]
    have dropped : (Event.release number).isFailure = false := rfl
    refine ⟨?_, by simp [kept, owns_result], ?_⟩
    · rw [kept, whole]
      simp [told, dropped]
    · rintro _ ⟨⟩
      exact ⟨info, whole⟩

theorem InspectionRun.leaves {place : UnitPlace} {number : Nat}
    {outcome : Except UnitFault (List LatencySeries)} {calls : List Event} (cpu : place.1 = .cpu)
    (run : InspectionRun place.2 number outcome calls) : Leaves 1 place outcome calls := by
  obtain ⟨device, entry⟩ := place
  cases cpu
  cases run with
  | notLoaded fault => exact leaves_nothing rfl
  | inspected info loadTime =>
    have whole : (QuerySize.all.map fun query =>
        LoadedModel.result ⟨entry, .cpu, info, loadTime⟩ query [0.0]).map (·.untimed) =
          fullResults entry .cpu info 1 := by
      simp [fullResults, untimed_result]
    refine ⟨?_, ?_, ?_⟩
    · rw [kept, whole]
      rfl
    · intro r member
      obtain ⟨query, _, rfl⟩ := List.mem_map.mp member
      exact owns_result (.cpu, entry) info loadTime query [0.0]
    · rintro _ ⟨⟩
      exact ⟨info, whole⟩

namespace Campaign

/-- One unit of a campaign, by itself. -/
def unit {m : Type → Type} {H : Type} [Monad m] (c : Campaign) (backend : Backend m H)
    (observer : Observer m) (place : UnitPlace) : m (Except UnitFault (List LatencySeries)) :=
  if c.plan.dryRun then inspectUnit backend observer place.2
  else measureUnit backend observer c.repetitions place.2 place.1

/-- The number of samples for each query of a unit. -/
def sampleCount (c : Campaign) : Nat := if c.plan.dryRun then 1 else c.repetitions.iterations

section

variable {σ H : Type} (c : Campaign) (backend : Backend (StateM σ) H)
  (observer : Observer (StateM σ))

/-- What a unit asks of its backend, and how that answers, when it is run in a given world. -/
def unitCalls (place : UnitPlace) (world : σ) : List Event :=
  requests (((c.unit backend.journaled observer.journaled place).run #[]).run world).1.2.toList

/-- What a unit leaves behind when it is run in a given world. -/
def left (place : UnitPlace) (world : σ) : List LatencySeries :=
  kept ((c.unit backend observer place).run world).1

theorem cpu_of_mem_places {c : Campaign} {accelerator : Bool} {place : UnitPlace}
    (dry : c.plan.dryRun = true) (member : place ∈ c.places accelerator) : place.1 = .cpu := by
  rw [places, if_pos dry] at member
  obtain ⟨entry, _, rfl⟩ := List.mem_map.mp member
  rfl

theorem unit_goes {place : UnitPlace} (member : place ∈ c.places backend.accelerator) (world : σ) :
    c.goes backend observer 0 place ((c.unit backend observer place).run world).1
      (c.unitCalls backend observer place world) := by
  by_cases dry : c.plan.dryRun = true
  · obtain ⟨events, run, calls, _⟩ :=
      (records_inspectUnit backend observer place.2).fromEmpty world
    simp only [goes, unitCalls, unit, if_pos dry]
    rw [run]
    exact ⟨cpu_of_mem_places dry member, calls, world, rfl⟩
  · obtain ⟨events, run, calls, _⟩ :=
      (records_measureUnit backend observer c.repetitions place.2 place.1).fromEmpty world
    simp only [goes, unitCalls, unit, if_neg dry]
    rw [run]
    exact ⟨calls, world, rfl⟩

section

variable {c backend observer} {number : Nat} {place : UnitPlace}
  {outcome : Except UnitFault (List LatencySeries)} {calls : List Event}

theorem gives_of_goes (goes : c.goes backend observer number place outcome calls) :
    Gives (c.unit backend observer place) outcome := by
  by_cases dry : c.plan.dryRun = true
  · rw [Campaign.goes, if_pos dry] at goes
    rw [unit, if_pos dry]
    exact goes.2.2
  · rw [Campaign.goes, if_neg dry] at goes
    rw [unit, if_neg dry]
    exact goes.2

theorem leaves_of_goes (goes : c.goes backend observer number place outcome calls) :
    Leaves c.sampleCount place outcome calls := by
  by_cases dry : c.plan.dryRun = true
  · rw [Campaign.goes, if_pos dry] at goes
    rw [sampleCount, if_pos dry]
    exact goes.2.1.leaves goes.1
  · rw [Campaign.goes, if_neg dry] at goes
    rw [sampleCount, if_neg dry]
    exact goes.1.leaves

end

end

/-- The results of a run: one unit after the other, each with all of its results if it succeeds and
    with none if it fails. Measured times aside, every unit leaves behind what it would leave alone,
    in whatever world. -/
structure Collected {σ H : Type} (c : Campaign) (backend : Backend (StateM σ) H)
    (observer : Observer (StateM σ)) (timings : List LatencySeries) : Prop where
  inTurn : ∃ worlds : List σ, worlds.length = (c.places backend.accelerator).length ∧
    timings = ((c.places backend.accelerator).zip worlds).flatMap fun turn =>
      c.left backend observer turn.1 turn.2
  alone : ∀ world, timings.map (·.untimed) =
    (c.places backend.accelerator).flatMap fun place =>
      (c.left backend observer place world).map (·.untimed)
  full : ∀ place ∈ c.places backend.accelerator, ∀ world results,
    ((c.unit backend observer place).run world).1 = .ok results →
      ∃ info, results.map (·.untimed) = fullResults place.2 place.1 info c.sampleCount

/-- Two backends have the same calls in a unit, whatever has happened before. -/
def SameCalls {σ σ' H H' : Type} (c : Campaign) (backend : Backend (StateM σ) H)
    (observer : Observer (StateM σ)) (backend' : Backend (StateM σ') H')
    (observer' : Observer (StateM σ')) (place : UnitPlace) : Prop :=
  ∀ world world',
    c.unitCalls backend observer place world = c.unitCalls backend' observer' place world'

/-- How a backend behaves in a unit depends on the entry and the device only. -/
def UnitsLocal {σ H : Type} (c : Campaign) (backend : Backend (StateM σ) H)
    (observer : Observer (StateM σ)) : Prop :=
  ∀ place ∈ c.places backend.accelerator, c.SameCalls backend observer backend observer place

section

variable {σ σ' H H' : Type} {c : Campaign} {backend : Backend (StateM σ) H}
  {observer : Observer (StateM σ)} {backend' : Backend (StateM σ') H'}
  {observer' : Observer (StateM σ')} {place : UnitPlace}

/-- The same calls leave the same behind, measured times aside. -/
theorem SameCalls.untimed_left (same : c.SameCalls backend observer backend' observer' place)
    (member : place ∈ c.places backend.accelerator)
    (member' : place ∈ c.places backend'.accelerator) (world : σ) (world' : σ') :
    (c.left backend observer place world).map (·.untimed) =
      (c.left backend' observer' place world').map (·.untimed) := by
  have here := (leaves_of_goes (c.unit_goes backend observer member world)).settled
  have there := (leaves_of_goes (c.unit_goes backend' observer' member' world')).settled
  rw [left, here, same world world', ← there, left]

theorem owns_left (member : place ∈ c.places backend.accelerator) (world : σ) :
    ∀ r ∈ c.left backend observer place world, place.owns r = true :=
  (leaves_of_goes (c.unit_goes backend observer member world)).owned

/-- The turns of a campaign leave behind what its units do, each in a world of its own. -/
theorem inTurn_of_turns {moves : Except UnitFault (List LatencySeries) → Nat} {number : Nat}
    {places : List UnitPlace} {results : List LatencySeries}
    {events : List Event}
    (turns : Turns (c.goes backend observer) moves number places results events) :
    ∃ worlds : List σ, worlds.length = places.length ∧
      results = (places.zip worlds).flatMap fun turn => c.left backend observer turn.1 turn.2 := by
  induction turns with
  | done number => exact ⟨[], rfl, rfl⟩
  | turn unit moved others ih =>
    obtain ⟨world, rfl⟩ := gives_of_goes unit
    obtain ⟨worlds, count, rfl⟩ := ih
    refine ⟨world :: worlds, ?_, rfl⟩
    rw [List.length_cons, List.length_cons, count]

theorem collected_of_turns {moves : Except UnitFault (List LatencySeries) → Nat} {number : Nat}
    {results : List LatencySeries} {events : List Event}
    (localUnits : c.UnitsLocal backend observer)
    (turns : Turns (c.goes backend observer) moves number (c.places backend.accelerator) results
      events) :
    c.Collected backend observer results where
  inTurn := inTurn_of_turns turns
  alone := by
    intro alone
    obtain ⟨worlds, count, rfl⟩ := inTurn_of_turns turns
    have firsts : ((c.places backend.accelerator).zip worlds).map Prod.fst =
        c.places backend.accelerator := List.map_fst_zip (Nat.le_of_eq count.symm)
    conv_rhs => rw [← firsts]
    rw [List.map_flatMap, List.flatMap_map]
    refine List.flatMap_congr fun turn member => ?_
    have place := (List.of_mem_zip member).1
    exact (localUnits turn.1 place).untimed_left place place turn.2 alone
  full := by
    intro place member world results succeeds
    exact (leaves_of_goes (c.unit_goes backend observer member world)).full results succeeds

/-- Leaving out one unit's series commutes with leaving out measured times. -/
theorem untimed_filter (odd : UnitPlace) (timings : List LatencySeries) :
    (timings.filter fun r => !odd.owns r).map (·.untimed) =
      (timings.map (·.untimed)).filter fun r => !odd.owns r := by
  rw [List.filter_map]
  rfl

theorem Collected.filter_eq {timings timings' : List LatencySeries} {odd : UnitPlace}
    (first : c.Collected backend observer timings)
    (second : c.Collected backend' observer' timings')
    (samePlaces : c.places backend'.accelerator = c.places backend.accelerator)
    (others : ∀ place ∈ c.places backend.accelerator, place ≠ odd → ∀ world world',
      (c.left backend observer place world).map (·.untimed) =
        (c.left backend' observer' place world').map (·.untimed))
    (world : σ) (world' : σ') :
    (timings.filter fun r => !odd.owns r).map (·.untimed) =
      (timings'.filter fun r => !odd.owns r).map (·.untimed) := by
  rw [untimed_filter, untimed_filter, first.alone world, second.alone world', samePlaces,
    List.filter_flatMap, List.filter_flatMap]
  refine List.flatMap_congr fun place member => ?_
  rw [← untimed_filter, ← untimed_filter]
  by_cases same : place = odd
  · -- both backends leave only series of the odd unit behind here
    subst same
    have dropped : ∀ results : List LatencySeries, (∀ r ∈ results, place.owns r = true) →
        results.filter (fun r => !place.owns r) = [] := by
      intro results owned
      rw [List.filter_eq_nil_iff]
      intro r here
      simp [owned r here]
    rw [dropped _ (owns_left member world), dropped _ (owns_left (samePlaces ▸ member) world')]
  · rw [untimed_filter, untimed_filter, others place member same world world']

end

/-- **Isolation.** A run gives the results of its units, whichever of them fail, and nothing of
    those that do. So let two backends treat every unit alike except for one: the results of all
    others are the same in both runs and in the same order, measured times aside. -/
theorem run_isolates_units {σ σ' H H' : Type} (c : Campaign) (backend : Backend (StateM σ) H)
    (observer : Observer (StateM σ)) (backend' : Backend (StateM σ') H')
    (observer' : Observer (StateM σ')) (odd : UnitPlace)
    (localUnits : c.UnitsLocal backend observer) (localUnits' : c.UnitsLocal backend' observer')
    (sameDevices : backend'.accelerator = backend.accelerator)
    (alike : ∀ place ∈ c.places backend.accelerator, place ≠ odd →
      c.SameCalls backend observer backend' observer' place)
    (machine : StateM σ Hardware) (date : StateM σ Timestamp) (machine' : StateM σ' Hardware)
    (date' : StateM σ' Timestamp) (world : σ) (world' : σ') :
    ∃ results final results' final',
      (c.run backend observer machine date).run world = (results, final) ∧
      (c.run backend' observer' machine' date').run world' = (results', final') ∧
      c.Collected backend observer results.timings ∧
      c.Collected backend' observer' results'.timings ∧
      (∀ place ∈ c.places backend.accelerator, place ≠ odd → ∀ world world',
        (c.left backend observer place world).map (·.untimed) =
          (c.left backend' observer' place world').map (·.untimed)) ∧
      (results.timings.filter fun r => !odd.owns r).map (·.untimed) =
        (results'.timings.filter fun r => !odd.owns r).map (·.untimed) := by
  obtain ⟨_, _, _, _, _, _, turns⟩ :=
    (records_run backend observer c machine date).fromEmpty world
  obtain ⟨_, _, _, _, _, _, turns'⟩ :=
    (records_run backend' observer' c machine' date').fromEmpty world'
  have samePlaces : c.places backend'.accelerator = c.places backend.accelerator := by
    rw [sameDevices]
  have first := collected_of_turns localUnits turns
  have second := collected_of_turns localUnits' turns'
  have others : ∀ place ∈ c.places backend.accelerator, place ≠ odd → ∀ world world',
      (c.left backend observer place world).map (·.untimed) =
        (c.left backend' observer' place world').map (·.untimed) := by
    intro place member different
    exact (alike place member different).untimed_left member (samePlaces ▸ member)
  exact ⟨_, _, _, _, rfl, rfl, first, second, others,
    first.filter_eq second samePlaces others world world'⟩

/-- The calls of a unit of two models that goes well. -/
def soundCalls (entry : ListedModel) : List Event :=
  [.load entry .cpu none, .describe 0 entry (.unknown entry)] ++
    (unitPlan ⟨0, 1⟩ .cpu).map (·.event 0 none) ++ [.release 0]

theorem soundScript_calls (entry : ListedModel) (world : Nat) :
    twoModels.unitCalls soundScript.backend tickingObserver (.cpu, entry) world =
      soundCalls entry :=
  rfl

theorem weakScript_calls_other (world : Nat) :
    twoModels.unitCalls weakScript.backend tickingObserver
      (.cpu, ⟨"sparse-small", "splade", .sparse⟩) world =
        soundCalls ⟨"sparse-small", "splade", .sparse⟩ := rfl

theorem weakScript_calls (world : Nat) :
    twoModels.unitCalls weakScript.backend tickingObserver
      (.cpu, ⟨"small", "minilm", .dense⟩) world =
        [.load ⟨"small", "minilm", .dense⟩ .cpu none,
          .describe 0 ⟨"small", "minilm", .dense⟩ (.unknown ⟨"small", "minilm", .dense⟩),
          .embed 0 QuerySize.short.text none,
          .embed 0 QuerySize.medium.text (some (.inference "no shape")), .release 0] := rfl

/-- The failing unit leaves nothing behind, although it has been timed in part, and the other one
    leaves behind what it does without the failure. -/
theorem weakScript_isolated :
    ∃ results final results' final',
      (twoModels.run soundScript.backend tickingObserver (pure .unknown) (pure ⟨0, 0⟩)).run 0 =
        (results, final) ∧
      (twoModels.run weakScript.backend tickingObserver (pure .unknown) (pure ⟨0, 0⟩)).run 0 =
        (results', final') ∧
      (∀ world, twoModels.left weakScript.backend tickingObserver
        (.cpu, ⟨"small", "minilm", .dense⟩) world = []) ∧
      (results.timings.filter fun r =>
          !UnitPlace.owns (.cpu, ⟨"small", "minilm", .dense⟩) r).map (·.untimed) =
        (results'.timings.filter fun r =>
          !UnitPlace.owns (.cpu, ⟨"small", "minilm", .dense⟩) r).map (·.untimed) := by
  have places : ∀ place ∈ twoModels.places false,
      place = (.cpu, ⟨"small", "minilm", .dense⟩) ∨
        place = (.cpu, ⟨"sparse-small", "splade", .sparse⟩) := by
    simp [twoModels, Campaign.places, Campaign.devices, DeviceChoice.devices]
  have sound : twoModels.UnitsLocal soundScript.backend tickingObserver := by
    intro place member world world'
    rcases places place member with rfl | rfl
    · rw [soundScript_calls, soundScript_calls]
    · rw [soundScript_calls, soundScript_calls]
  have weak : twoModels.UnitsLocal weakScript.backend tickingObserver := by
    intro place member world world'
    rcases places place member with rfl | rfl
    · rw [weakScript_calls, weakScript_calls]
    · rw [weakScript_calls_other, weakScript_calls_other]
  obtain ⟨results, final, results', final', run, run', _, _, _, others⟩ :=
    run_isolates_units twoModels soundScript.backend tickingObserver weakScript.backend
      tickingObserver (.cpu, ⟨"small", "minilm", .dense⟩) sound weak rfl
      (by
        intro place member different world world'
        rcases places place member with rfl | rfl
        · exact absurd rfl different
        · rw [soundScript_calls, weakScript_calls_other])
      (pure .unknown) (pure ⟨0, 0⟩) (pure .unknown) (pure ⟨0, 0⟩) 0 0
  exact ⟨results, final, results', final', run, run', fun _ => rfl, others⟩

end Campaign

end Bench

end EmbeddingLatency
