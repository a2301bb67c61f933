import EmbeddingLatency.Proofs.Bench.Isolation
import EmbeddingLatency.Proofs.Bench.Lifetimes
import Mathlib.Data.List.TakeWhile

/-!
# Units that succeed

Which units have succeeded is read off the requests of a run: the model has been loaded, and no
request has failed up to the next load. The series of a run are those of these units and no others,
one for each unit and query size.
-/

set_option autoImplicit false

namespace EmbeddingLatency.Bench

/-- The requests up to the next load. -/
def upToLoad (events : List Event) : List Event := events.takeWhile fun event => !event.isLoad

/-- The units that have succeeded, in the order of their loads. -/
def succeeded : List Event → List UnitPlace
  | [] => []
  | .load entry device none :: rest =>
    if (upToLoad rest).any (·.isFailure) then succeeded rest else (device, entry) :: succeeded rest
  | _ :: rest => succeeded rest

/-- What comes behind the next load does not count. -/
theorem upToLoad_append {more : List Event} (opens : ∀ event ∈ more.head?, event.isLoad = true)
    (events : List Event) : upToLoad (events ++ more) = upToLoad events := by
  induction events with
  | nil =>
    cases more with
    | nil => rfl
    | cons event rest => simp [upToLoad, opens event rfl]
  | cons event rest ih =>
    cases load : event.isLoad with
    | true => simp [upToLoad, load]
    | false => simpa [upToLoad, load] using ih

theorem succeeded_append {more : List Event} (opens : ∀ event ∈ more.head?, event.isLoad = true)
    (events : List Event) : succeeded (events ++ more) = succeeded events ++ succeeded more := by
  induction events with
  | nil => rfl
  | cons event rest ih =>
    rw [List.cons_append]
    cases event with
    | load entry device fault =>
      cases fault with
      | none =>
        rw [succeeded, succeeded, upToLoad_append opens, ih]
        split
        · rfl
        · rfl
      | some fault => exact ih
    | _ => exact ih

section Uses

variable {uses : List Event} (only : ∀ use ∈ uses, use.isLoad = false)

include only

theorem upToLoad_uses : upToLoad uses = uses := by
  rw [upToLoad, List.takeWhile_eq_self_iff]
  intro use member
  rw [only use member]
  rfl

/-- Without a load nothing succeeds. -/
theorem succeeded_uses : succeeded uses = [] := by
  induction uses with
  | nil => rfl
  | cons use rest ih =>
    have later := ih fun other member => only other (List.mem_cons_of_mem _ member)
    have here := only use List.mem_cons_self
    cases use with
    | load entry device fault => cases here
    | _ => exact later

/-- A unit whose model is loaded succeeds unless a request fails. -/
theorem succeeded_load (entry : ListedModel) (device : Device) :
    succeeded (.load entry device none :: uses) =
      if uses.any (·.isFailure) then [] else [(device, entry)] := by
  rw [succeeded, upToLoad_uses only, succeeded_uses only]

end Uses

/-- The series of some units that have succeeded: one for each unit and query size. -/
inductive Yields (good : List Float → Prop) : List UnitPlace → List LatencySeries → Prop
  | nothing : Yields good [] []
  | unit (model : LoadedModel) (samples : QuerySize → List Float)
      (each : ∀ query, good (samples query))
      {rest : List UnitPlace} {later : List LatencySeries} (others : Yields good rest later) :
      Yields good ((model.device, model.entry) :: rest)
        (QuerySize.all.map (fun query => model.result query (samples query)) ++ later)

namespace Yields

variable {good : List Float → Prop} {places : List UnitPlace} {results : List LatencySeries}

theorem append {places' : List UnitPlace} {results' : List LatencySeries}
    (first : Yields good places results) (second : Yields good places' results') :
    Yields good (places ++ places') (results ++ results') := by
  induction first with
  | nothing => exact second
  | unit model samples each others ih =>
    rw [List.append_assoc]
    exact .unit model samples each ih

/-- The series of a single unit. -/
theorem single (model : LoadedModel) (samples : QuerySize → List Float)
    (each : ∀ query, good (samples query)) :
    Yields good [(model.device, model.entry)]
      (QuerySize.all.map fun query => model.result query (samples query)) := by
  rw [← List.append_nil (List.map ..)]
  exact .unit model samples each .nothing

end Yields

/-- A unit whose model is loaded, used and released succeeds unless a use fails. -/
theorem succeeded_unit {calls : List Event} (only : ∀ call ∈ calls, call.isLoad = false)
    (entry : ListedModel) (device : Device) (number : Nat) (info : ModelFacts) :
    succeeded ([.load entry device none, .describe number entry info] ++ calls ++
      [.release number]) =
      if calls.any (·.isFailure) then [] else [(device, entry)] := by
  rw [List.append_assoc, List.cons_append, succeeded_load]
  · have described : (Event.describe number entry info).isFailure = false := rfl
    have released : (Event.release number).isFailure = false := rfl
    simp [described, released]
  · intro call member
    simp only [List.mem_cons, List.mem_append, List.not_mem_nil, or_false] at member
    rcases member with (rfl | ⟨⟨⟩⟩) | called | rfl
    · rfl
    · exact only call called
    · rfl

/-- The requests of a unit tell whether it gives results, and which series these are. -/
structure Delivers (good : List Float → Prop) (number : Nat) (place : UnitPlace)
    (outcome : Except UnitFault (List LatencySeries)) (calls : List Event) : Prop where
  visit : Visit number place calls
  settled : succeeded calls = if outcome.isOk then [place] else []
  yields : Yields good (succeeded calls) (kept outcome)

theorem Delivers.within {good : List Float → Prop} {number : Nat} {place : UnitPlace}
    {outcome : Except UnitFault (List LatencySeries)} {calls : List Event}
    (delivers : Delivers good number place outcome calls) : (succeeded calls).Sublist [place] := by
  rw [delivers.settled]
  split
  · exact List.Sublist.refl _
  · exact List.nil_sublist _

theorem UnitRun.delivers {reps : Repetitions} {place : UnitPlace} {number : Nat}
    {outcome : Except UnitFault (List LatencySeries)} {calls : List Event}
    (run : UnitRun reps place.2 place.1 number outcome calls) :
    Delivers (·.length = reps.iterations) number place outcome calls := by
  have visit := run.visit
  cases run with
  | notLoaded fault => exact ⟨visit, rfl, .nothing⟩
  | @interrupted info made left call split fault =>
    have lost : succeeded ([.load place.2 place.1 none, .describe number place.2 info] ++
        (made.map (·.event number none) ++ [call.event number (some fault)]) ++ [.release number]) =
          [] := by
      rw [succeeded_unit (by simp [or_imp, forall_and])]
      simp
    refine ⟨visit, lost, ?_⟩
    rw [lost]
    exact .nothing
  | @completed info loadTime short medium long shortFull mediumFull longFull =>
    have passed : succeeded ([.load place.2 place.1 none, .describe number place.2 info] ++
        (unitPlan reps place.1).map (·.event number none) ++ [.release number]) = [place] := by
      rw [succeeded_unit (by simp)]
      simp
    let samples (query : QuerySize) : List Float := query.casesOn short medium long
    refine ⟨visit, passed, ?_⟩
    rw [passed]
    refine .single ⟨place.2, place.1, info, loadTime⟩ samples ?_
    intro query
    cases query with
    | short => exact shortFull
    | medium => exact mediumFull
    | long => exact longFull

theorem InspectionRun.delivers {place : UnitPlace} {number : Nat}
    {outcome : Except UnitFault (List LatencySeries)} {calls : List Event} (cpu : place.1 = .cpu)
    (run : InspectionRun place.2 number outcome calls) :
    Delivers (· = [0.0]) number place outcome calls := by
  have visit := run.visit cpu
  obtain ⟨device, entry⟩ := place
  cases cpu
  cases run with
  | notLoaded fault => exact ⟨visit, rfl, .nothing⟩
  | inspected info loadTime =>
    have silent : Yields (· = [0.0]) [(Device.cpu, entry)]
        (QuerySize.all.map fun query =>
          LoadedModel.result ⟨entry, .cpu, info, loadTime⟩ query [0.0]) :=
      .single ⟨entry, .cpu, info, loadTime⟩ (fun _ => [0.0]) fun _ => rfl
    exact ⟨visit, rfl, silent⟩

theorem Visit.opens {number : Nat} {place : UnitPlace} {calls : List Event}
    (visit : Visit number place calls) :
    ∃ fault rest, calls = .load place.2 place.1 fault :: rest := by
  cases visit with
  | refused fault => exact ⟨_, _, rfl⟩
  | held uses only => exact ⟨_, _, rfl⟩

theorem Visits.opens {number : Nat} {places : List UnitPlace} {calls : List Event}
    (visits : Visits number places calls) : ∀ event ∈ calls.head?, event.isLoad = true := by
  cases visits with
  | done number => simp
  | visit here others =>
    obtain ⟨fault, rest, rfl⟩ := here.opens
    rintro _ ⟨⟩
    rfl

/-- The series of a run are those of the units that have succeeded, which are some of its units. -/
theorem Turns.yields
    {goes : Nat → UnitPlace → Except UnitFault (List LatencySeries) → List Event → Prop}
    {good : List Float → Prop} {moves : Except UnitFault (List LatencySeries) → Nat} {number : Nat}
    {places : List UnitPlace}
    {results : List LatencySeries} {events : List Event}
    (turns : Turns goes moves number places results events)
    (each : ∀ number place outcome calls,
      goes number place outcome calls → Delivers good number place outcome calls) :
    Yields good (succeeded (requests events)) results ∧
      (succeeded (requests events)).Sublist places := by
  induction turns with
  | done number => exact ⟨.nothing, List.Sublist.refl _⟩
  | @turn number place rest outcome later events more unit moved others ih =>
    have here := each _ _ _ _ unit
    have behind := others.visits fun _ _ _ _ goes => (each _ _ _ _ goes).visit
    rw [requests_append, succeeded_append behind.opens]
    exact ⟨here.yields.append ih.1, here.within.append ih.2⟩

namespace Campaign

/-- As many samples as a query of a campaign has; in a dry run it is a single zero. -/
def Sampled (c : Campaign) (samples : List Float) : Prop :=
  if c.plan.dryRun then samples = [0.0] else samples.length = c.repetitions.iterations

theorem delivers_of_goes {σ H : Type} {backend : Backend (StateM σ) H}
    {observer : Observer (StateM σ)} {c : Campaign} {number : Nat} {place : UnitPlace}
    {outcome : Except UnitFault (List LatencySeries)} {calls : List Event}
    (goes : c.goes backend observer number place outcome calls) :
    Delivers c.Sampled number place outcome calls := by
  by_cases dry : c.plan.dryRun = true
  · rw [Campaign.goes, if_pos dry] at goes
    have sampled : c.Sampled = (· = [0.0]) := by
      funext samples
      simp [Sampled, dry]
    rw [sampled]
    exact goes.2.1.delivers goes.1
  · rw [Campaign.goes, if_neg dry] at goes
    have sampled : c.Sampled = (·.length = c.repetitions.iterations) := by
      funext samples
      simp [Sampled, dry]
    rw [sampled]
    exact goes.1.delivers

/-- The units of a campaign are its entries on its devices, in a dry run on the CPU. -/
theorem mem_places_iff (c : Campaign) (accelerator : Bool) (place : UnitPlace) :
    place ∈ c.places accelerator ↔
      place.2 ∈ c.catalog.entries ∧
        if c.plan.dryRun then place.1 = .cpu else place.1 ∈ c.devices accelerator := by
  obtain ⟨device, entry⟩ := place
  by_cases dry : c.plan.dryRun = true
  · simp [places, dry, and_comm, eq_comm]
  · simp [places, dry, and_comm]

end Campaign

end EmbeddingLatency.Bench
