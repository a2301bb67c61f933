import EmbeddingLatency.Proofs.Bench.CampaignRuns
import EmbeddingLatency.Rehearsal.Units

/-!
# Loads and lifetimes

When models are loaded and released in a campaign. The requests of a unit are a `Visit`: a load that
is refused, or a load, uses of the handle and its release. The requests of a campaign are the visits
of its units, one after the other, and everything about the order of loads and the lives of handles
is read off them.
-/

set_option autoImplicit false

namespace EmbeddingLatency.Bench

/-- Is the event a request about a handle other than its release? -/
def Event.isUseOf (number : Nat) : Event → Bool
  | .describe handle .. => handle = number
  | .embed handle .. => handle = number
  | .embedAll handle .. => handle = number
  | .barrier handle _ => handle = number
  | _ => false

/-- Is the event a request that a model computes something for? -/
def Event.isInference : Event → Bool
  | .embed .. => true
  | .embedAll .. => true
  | .barrier .. => true
  | _ => false

/-- The units whose models are loaded, in the order of the load requests. -/
def loadOrder (events : List Event) : List UnitPlace :=
  events.filterMap fun
    | .load entry device _ => some (device, entry)
    | _ => none

/-- The requests of one unit: a load that is refused, or the whole life of a handle. -/
inductive Visit (number : Nat) (place : UnitPlace) : List Event → Prop
  | refused (fault : Fault) : Visit number place [.load place.2 place.1 (some fault)]
  | held (uses : List Event) (only : ∀ use ∈ uses, use.isUseOf number = true) :
      Visit number place (.load place.2 place.1 none :: (uses ++ [.release number]))

/-- The requests of some units, one unit after the other. -/
inductive Visits : Nat → List UnitPlace → List Event → Prop
  | done (number : Nat) : Visits number [] []
  | visit {number : Nat} {place : UnitPlace} {rest : List UnitPlace} {calls more : List Event}
      (here : Visit number place calls) (others : Visits (number + 1) rest more) :
      Visits number (place :: rest) (calls ++ more)

@[simp] theorem isUseOf_event (number : Nat) (fault : Option Fault) (planned : PlannedCall) :
    (planned.event number fault).isUseOf number = true := by
  obtain ⟨_ | _, _, _⟩ := planned <;> simp [PlannedCall.event, Event.isUseOf]

theorem UnitRun.visit {reps : Repetitions} {number : Nat} {place : UnitPlace}
    {outcome : Except UnitFault (List LatencySeries)} {calls : List Event}
    (run : UnitRun reps place.2 place.1 number outcome calls) : Visit number place calls := by
  cases run with
  | notLoaded fault => exact .refused fault
  | @interrupted info made left call split fault =>
    rw [List.append_assoc]
    refine .held (.describe number place.2 info ::
      (made.map (·.event number none) ++ [call.event number (some fault)])) ?_
    intro use member
    rcases List.mem_cons.mp member with rfl | planned
    · simp [Event.isUseOf]
    · rcases List.mem_append.mp planned with earlier | last
      · obtain ⟨planned, _, rfl⟩ := List.mem_map.mp earlier
        exact isUseOf_event ..
      · cases List.mem_singleton.mp last
        exact isUseOf_event ..
  | completed info loadTime shortFull mediumFull longFull =>
    rw [List.append_assoc]
    refine .held (.describe number place.2 info ::
      (unitPlan reps place.1).map (·.event number none)) ?_
    intro use member
    rcases List.mem_cons.mp member with rfl | planned
    · simp [Event.isUseOf]
    · obtain ⟨planned, _, rfl⟩ := List.mem_map.mp planned
      exact isUseOf_event ..

theorem InspectionRun.visit {number : Nat} {place : UnitPlace}
    {outcome : Except UnitFault (List LatencySeries)} {calls : List Event} (cpu : place.1 = .cpu)
    (run : InspectionRun place.2 number outcome calls) : Visit number place calls := by
  obtain ⟨device, entry⟩ := place
  cases cpu
  cases run with
  | notLoaded fault => exact .refused fault
  | inspected info loadTime =>
    refine .held [.describe number entry info] ?_
    simp [Event.isUseOf]

/-- The turns of a campaign are visits. -/
theorem Turns.visits
    {goes : Nat → UnitPlace → Except UnitFault (List LatencySeries) → List Event → Prop}
    {moves : Except UnitFault (List LatencySeries) → Nat} {number : Nat} {places : List UnitPlace}
    {results : List LatencySeries} {events : List Event}
    (turns : Turns goes moves number places results events)
    (each : ∀ number place outcome calls,
      goes number place outcome calls → Visit number place calls) :
    Visits number places (requests events) := by
  induction turns with
  | done number => exact .done number
  | turn unit moved others ih =>
    rw [requests_append]
    exact .visit (each _ _ _ _ unit) ih

theorem Campaign.visit_of_goes {σ H : Type} {backend : Backend (StateM σ) H}
    {observer : Observer (StateM σ)} {c : Campaign} {number : Nat} {place : UnitPlace}
    {outcome : Except UnitFault (List LatencySeries)} {calls : List Event}
    (goes : c.goes backend observer number place outcome calls) : Visit number place calls := by
  unfold Campaign.goes at goes
  split at goes
  · exact goes.2.1.visit goes.1
  · exact goes.1.visit

@[simp] theorem live_append (events more : List Event) :
    live (events ++ more) = live events + live more := by
  induction events with
  | nil => simp
  | cons event rest ih => rw [List.cons_append, live_cons, live_cons, ih, Int.add_assoc]

/-- Only loads and releases change how many models are live, and both are requests. -/
theorem live_requests (events : List Event) : live (requests events) = live events := by
  induction events with
  | nil => rfl
  | cons event rest ih =>
    have split : requests (event :: rest) = requests [event] ++ requests rest :=
      requests_append [event] rest
    have still : live (requests [event]) = live [event] := by cases event <;> rfl
    rw [split, live_append, still, ih]
    exact (live_append [event] rest).symm

section Uses

variable {number : Nat} {uses : List Event} (only : ∀ use ∈ uses, use.isUseOf number = true)

include only

theorem live_uses : live uses = 0 := by
  induction uses with
  | nil => rfl
  | cons use rest ih =>
    have still : use.liveChange = 0 := by
      have here := only use List.mem_cons_self
      cases use <;> simp_all [Event.isUseOf, Event.liveChange]
    rw [live_cons, still, Int.zero_add]
    exact ih fun other member => only other (List.mem_cons_of_mem _ member)

theorem loadCount_uses : loadCount uses = 0 := by
  rw [loadCount, List.countP_eq_zero]
  intro use member
  have here := only use member
  cases use <;> simp_all [Event.isUseOf, Event.isLoad]

theorem loadOrder_uses : loadOrder uses = [] := by
  rw [loadOrder, List.filterMap_eq_nil_iff]
  intro use member
  have here := only use member
  cases use <;> simp_all [Event.isUseOf]

end Uses

@[simp] theorem loadOrder_append (events more : List Event) :
    loadOrder (events ++ more) = loadOrder events ++ loadOrder more :=
  List.filterMap_append ..

namespace Visit

variable {number : Nat} {place : UnitPlace} {calls : List Event}

theorem live_eq (visit : Visit number place calls) : live calls = 0 := by
  cases visit with
  | refused fault => rfl
  | held uses only =>
    have opened : live [.load place.2 place.1 none] = 1 := rfl
    have closed : live [.release number] = -1 := rfl
    rw [← List.singleton_append, live_append, live_append, live_uses only, opened, closed]
    rfl

theorem loadCount_eq (visit : Visit number place calls) : loadCount calls = 1 := by
  cases visit with
  | refused fault => rfl
  | held uses only =>
    rw [← List.singleton_append, loadCount_append, loadCount_append, loadCount_uses only]
    rfl

theorem loadOrder_eq (visit : Visit number place calls) : loadOrder calls = [place] := by
  cases visit with
  | refused fault => rfl
  | held uses only =>
    rw [← List.singleton_append, loadOrder_append, loadOrder_append, loadOrder_uses only]
    rfl

/-- Within a visit the handle is live or not. -/
theorem live_bounds (visit : Visit number place calls) {early left : List Event}
    (split : calls = early ++ left) : 0 ≤ live early ∧ live early ≤ 1 := by
  cases visit with
  | refused fault =>
    rcases List.append_eq_singleton_iff.mp split.symm with ⟨rfl, _⟩ | ⟨rfl, _⟩
    · exact ⟨Int.le_refl 0, Int.zero_le_ofNat 1⟩
    · exact ⟨Int.le_refl 0, Int.zero_le_ofNat 1⟩
  | held uses only =>
    cases early with
    | nil => exact ⟨Int.le_refl 0, Int.zero_le_ofNat 1⟩
    | cons opening early =>
      obtain ⟨rfl, inner⟩ := List.cons.inj split
      have opened : live [.load place.2 place.1 none] = 1 := rfl
      rw [← List.singleton_append, live_append, opened]
      rcases List.append_eq_append_iff.mp inner with ⟨rest, rfl, last⟩ | ⟨rest, rfl, _⟩
      · rw [live_append, live_uses only]
        rcases List.append_eq_singleton_iff.mp last.symm with ⟨rfl, _⟩ | ⟨rfl, _⟩
        · decide
        · have closed : live [.release number] = -1 := rfl
          rw [closed]
          decide
      · rw [live_uses fun use member => only use (List.mem_append_left _ member)]
        decide

/-- A model that is loaded is loaded first, and its release ends the visit. -/
theorem loaded (visit : Visit number place calls) {early left : List Event} {entry : ListedModel}
    {device : Device} (split : calls = early ++ .load entry device none :: left) :
    early = [] ∧
      ∃ uses, left = uses ++ [.release number] ∧ ∀ use ∈ uses, use.isUseOf number = true := by
  cases visit with
  | refused fault =>
    rcases List.append_eq_singleton_iff.mp split.symm with ⟨_, last⟩ | ⟨_, last⟩
    · cases last
    · cases last
  | held uses only =>
    cases early with
    | nil =>
      obtain ⟨_, rest⟩ := List.cons.inj split
      exact ⟨rfl, uses, rest.symm, only⟩
    | cons opening early =>
      obtain ⟨_, inner⟩ := List.cons.inj split
      have member : .load entry device none ∈ uses ++ [.release number] := by
        rw [inner]
        exact List.mem_append_right _ List.mem_cons_self
      rcases List.mem_append.mp member with use | last
      · exact absurd (only _ use) (by simp [Event.isUseOf])
      · cases List.mem_singleton.mp last

end Visit

/-- An element of two lists put together stands in the second or in the first. -/
theorem append_eq_append_cons {α : Type} {first second early left : List α} {e : α}
    (split : first ++ second = early ++ e :: left) :
    (∃ past, early = first ++ past ∧ second = past ++ e :: left) ∨
      ∃ within, first = early ++ e :: within ∧ left = within ++ second := by
  rcases List.append_eq_append_iff.mp split with ⟨past, rfl, rest⟩ | ⟨within, rfl, rest⟩
  · exact .inl ⟨past, rfl, rest⟩
  · cases within with
    | nil => exact .inl ⟨[], by simp, rest.symm⟩
    | cons other within =>
      obtain ⟨rfl, last⟩ := List.cons.inj rest
      exact .inr ⟨within, rfl, last⟩

namespace Visits

variable {number : Nat} {places : List UnitPlace} {calls : List Event}

theorem live_eq (visits : Visits number places calls) : live calls = 0 := by
  induction visits with
  | done number => rfl
  | visit here others ih => rw [live_append, here.live_eq, ih]; rfl

theorem loadOrder_eq (visits : Visits number places calls) : loadOrder calls = places := by
  induction visits with
  | done number => rfl
  | visit here others ih => rw [loadOrder_append, here.loadOrder_eq, ih]; rfl

/-- At every moment at most one handle is live. -/
theorem live_bounds (visits : Visits number places calls) :
    ∀ early left, calls = early ++ left → 0 ≤ live early ∧ live early ≤ 1 := by
  induction visits with
  | done number =>
    intro early left split
    rw [(List.append_eq_nil_iff.mp split.symm).1]
    exact ⟨Int.le_refl 0, Int.zero_le_ofNat 1⟩
  | visit here others ih =>
    intro early left split
    rcases List.append_eq_append_iff.mp split with ⟨more, rfl, rest⟩ | ⟨more, within, _⟩
    · rw [live_append, here.live_eq, Int.zero_add]
      exact ih more left rest
    · exact here.live_bounds within

/-- Handles that are released later have later numbers. -/
theorem number_le_of_release (visits : Visits number places calls) {released : Nat}
    (member : .release released ∈ calls) : number ≤ released := by
  induction visits with
  | done number => cases member
  | visit here others ih =>
    rcases List.mem_append.mp member with within | later
    · cases here with
      | refused fault => simp at within
      | held uses only =>
        rcases List.mem_cons.mp within with opening | within
        · cases opening
        · rcases List.mem_append.mp within with use | last
          · exact absurd (only _ use) (by simp [Event.isUseOf])
          · cases List.mem_singleton.mp last
            exact Nat.le_refl _
    · exact Nat.le_of_succ_le (ih later)

/-- A loaded handle is used until it is released, before anything else is loaded, and it is not
    released again. -/
theorem release_follows (visits : Visits number places calls) :
    ∀ early left entry device, calls = early ++ .load entry device none :: left →
      ∃ uses rest, left = uses ++ .release (number + loadCount early) :: rest ∧
        (∀ use ∈ uses, use.isUseOf (number + loadCount early) = true) ∧
        .release (number + loadCount early) ∉ rest := by
  induction visits with
  | done number =>
    intro early left entry device split
    simp at split
  | visit here others ih =>
    intro early left entry device split
    rcases append_eq_append_cons split with ⟨past, rfl, behind⟩ | ⟨within, first, rfl⟩
    · -- the handles of later visits are numbered from the next number on
      rw [loadCount_append, here.loadCount_eq, ← Nat.add_assoc]
      exact ih past left entry device behind
    · obtain ⟨rfl, uses, rfl, only⟩ := here.loaded first
      refine ⟨uses, _, List.append_assoc uses [.release _] _, only, ?_⟩
      intro again
      have beyond := others.number_le_of_release again
      have same : loadCount [] = 0 := rfl
      omega

end Visits

/-- The handles of a run: at most one is live at any moment and none in the end, and a loaded handle
    is used and then released, once, before the next load. -/
structure HandlesInTurn (events : List Event) : Prop where
  single : ∀ early left, events = early ++ left → 0 ≤ live early ∧ live early ≤ 1
  closed : live events = 0
  released : ∀ early left entry device,
    requests events = early ++ .load entry device none :: left →
      ∃ uses rest, left = uses ++ .release (loadCount early) :: rest ∧
        (∀ use ∈ uses, use.isUseOf (loadCount early) = true) ∧
        .release (loadCount early) ∉ rest

theorem Visits.handlesInTurn {places : List UnitPlace} {events : List Event}
    (visits : Visits 0 places (requests events)) : HandlesInTurn events where
  single := by
    rintro early left rfl
    rw [← live_requests]
    exact visits.live_bounds (requests early) (requests left) (requests_append early left)
  closed := by rw [← live_requests, visits.live_eq]
  released := by simpa only [Nat.zero_add] using visits.release_follows

/-- A dry run asks for loads on the CPU and for what is known of the models, and for
    nothing else. -/
theorem Turns.dry_calls {σ H : Type} {backend : Backend (StateM σ) H}
    {observer : Observer (StateM σ)} {moves : Except UnitFault (List LatencySeries) → Nat}
    {number : Nat} {places : List UnitPlace}
    {results : List LatencySeries} {events : List Event}
    (turns : Turns (dryGoes backend observer) moves number places results events) :
    ∀ event ∈ events, event.isInference = false ∧
    ∀ entry fault, event ≠ .load entry .cuda fault := by
  induction turns with
  | done number => simp
  | @turn number place rest outcome later events more unit moved others ih =>
    intro event member
    rcases List.mem_append.mp member with here | behind
    · by_cases asked : event.isRequest = true
      · have called : event ∈ requests events := List.mem_filter.mpr ⟨here, asked⟩
        obtain ⟨_, inspection, _⟩ := unit
        generalize requests events = calls at inspection called
        cases inspection with
        | notLoaded fault =>
          cases List.mem_singleton.mp called
          simp [Event.isInference]
        | inspected info loadTime =>
          simp only [List.mem_cons, List.not_mem_nil, or_false] at called
          rcases called with rfl | rfl | rfl
          · simp [Event.isInference]
          · simp [Event.isInference]
          · simp [Event.isInference]
      · cases event <;> simp_all [Event.isRequest, Event.isInference]
    · exact ih event behind

theorem loadOrder_requests (events : List Event) :
    loadOrder (requests events) = loadOrder events := by
  rw [loadOrder, requests, List.filterMap_filter, loadOrder]
  congr 1
  funext event
  cases event <;> rfl

/-- An accepted campaign is made of what the settings and the entries say. -/
theorem Campaign.eq_of_ofSettings {settings : Settings} {catalog : Catalog} {c : Campaign}
    (accepted : Campaign.ofSettings settings catalog = .ok c) :
    c = ⟨catalog, settings.plan, settings.devices⟩ := by
  unfold Campaign.ofSettings at accepted
  cases valid : settings.validate with
  | error fault => simp [valid, Except.map] at accepted
  | ok _ =>
    rw [valid] at accepted
    exact (Except.ok.inj accepted).symm

/-- **Loads and lifetimes.** Whatever the backend answers, a run asks for each entry on each of its
    devices once, dense entries before sparse ones and otherwise in the given order, and keeps its
    handles in turn. A dry run makes no model compute anything and leaves the accelerator alone. -/
theorem run_loads_in_order {σ H : Type} (backend : Backend (StateM σ) H)
    (observer : Observer (StateM σ)) {settings : Settings} {entries : List ListedModel}
    {c : Campaign} (accepted : Campaign.ofSettings settings (.ofEntries entries) = .ok c)
    (machine : StateM σ Hardware) (date : StateM σ Timestamp) (world : σ) :
    ∃ results events world',
      (c.run backend observer machine date).run world = (results, world') ∧
      ((c.run backend.journaled observer.journaled (liftM machine) (liftM date)).run
        #[]).run world =
        ((results, events.toArray), world') ∧
      loadOrder events =
        (if settings.dryRun then [.cpu]
          else if settings.devices = .auto ∧ backend.accelerator = true then [.cpu, .cuda]
          else [.cpu]).flatMap
          (fun device =>
            (entries.filter (!·.isSparse) ++ entries.filter (·.isSparse)).map (device, ·)) ∧
      HandlesInTurn events ∧
      (settings.dryRun = true → ∀ event ∈ events,
        event.isInference = false ∧ ∀ entry fault, event ≠ .load entry .cuda fault) := by
  obtain ⟨events, run, first, turns, last, split, whole⟩ :=
    (Campaign.records_run backend observer c machine date).fromEmpty world
  have asked : requests events = requests turns := by
    rw [split]
    simp [requests, Event.isRequest]
  have visits : Visits 0 (c.places backend.accelerator) (requests events) := by
    rw [asked]
    exact whole.visits fun _ _ _ _ => Campaign.visit_of_goes
  refine ⟨_, events, _, rfl, run, ?_, visits.handlesInTurn, ?_⟩
  · rw [← loadOrder_requests, visits.loadOrder_eq, Campaign.eq_of_ofSettings accepted]
    by_cases dry : settings.dryRun = true
    · simp [Campaign.places, Settings.plan, Catalog.ofEntries, dry]
    · simp [Campaign.places, Settings.plan, Catalog.ofEntries, Campaign.devices,
        DeviceChoice.devices, dry]
  · intro dry event member
    have dryPlan : c.plan.dryRun = true := by
      rw [Campaign.eq_of_ofSettings accepted]
      exact dry
    rw [Campaign.goes, if_pos dryPlan] at whole
    rw [split] at member
    simp only [List.mem_cons, List.mem_append, List.not_mem_nil, or_false] at member
    rcases member with rfl | within | rfl
    · simp [Event.isInference]
    · exact whole.dry_calls event within
    · simp [Event.isInference]

/-- One model is refused by the accelerator, and the other one fails while it is warmed up on the
    CPU. -/
def strainedScript : Rehearsal.Script where
  accelerator := true
  describe := .unknown
  failures :=
    [⟨some "minilm", some .cuda, .load, .model "no memory"⟩,
      ⟨some "splade", some .cpu, .embed 2, .inference "no shape"⟩]

/-- A run on both devices with two failing units. -/
theorem strained_run_loads_in_order :
    ∃ c results events,
      Campaign.ofSettings .default
        (.ofEntries [⟨"sparse-small", "splade", .sparse⟩, ⟨"small", "minilm", .dense⟩]) = .ok c ∧
      ((c.run (strainedScript.backend (m := StateM Unit)).journaled Observer.silent.journaled
          (pure .unknown) (pure ⟨0, 0⟩)).run #[]).run () = ((results, events.toArray), ()) ∧
      loadOrder events =
        [(.cpu, ⟨"small", "minilm", .dense⟩), (.cpu, ⟨"sparse-small", "splade", .sparse⟩),
          (.cuda, ⟨"small", "minilm", .dense⟩), (.cuda, ⟨"sparse-small", "splade", .sparse⟩)] ∧
      HandlesInTurn events := by
  have accepted : Campaign.ofSettings .default
      (.ofEntries [⟨"sparse-small", "splade", .sparse⟩, ⟨"small", "minilm", .dense⟩]) =
        .ok ⟨⟨[⟨"small", "minilm", .dense⟩, ⟨"sparse-small", "splade", .sparse⟩]⟩,
          Settings.default.plan, .auto⟩ := rfl
  obtain ⟨results, events, _, _, run, order, inTurn, _⟩ :=
    run_loads_in_order strainedScript.backend .silent accepted (pure .unknown) (pure ⟨0, 0⟩) ()
  exact ⟨_, results, events, accepted, run, order, inTurn⟩

end EmbeddingLatency.Bench
