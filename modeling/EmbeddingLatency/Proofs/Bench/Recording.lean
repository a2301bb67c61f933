import EmbeddingLatency.Bench.Journal

/-!
# Recorded runs

A journaled run beside the plain run that it records, both in a world that any request may read and
change. `Records` says of the two that they end in the same world with the same answer, up to the
numbers of handles, and what the journal has gained. It is closed under sequencing, so a statement
about the journal of a program is put together from statements about its parts. What a journal lists
is left open until requests are noted.
-/

set_option autoImplicit false

namespace EmbeddingLatency.Bench

variable {σ α β γ δ ε H : Type}

/-- `journaled`, begun with the journal `before`, does what `plain` does; `see` turns the
    plain answer into the journaled one, and `post` holds of the plain answer and the events
    that are added. -/
def Records (before : List ε) (journaled : StateT (Array ε) (StateM σ) β) (plain : StateM σ α)
    (see : α → β) (post : α → List ε → Prop) : Prop :=
  ∀ world, ∃ events,
    (journaled.run before.toArray).run world =
      ((see (plain.run world).1, (before ++ events).toArray), (plain.run world).2) ∧
    post (plain.run world).1 events

theorem Records.mono {before : List ε} {journaled : StateT (Array ε) (StateM σ) β}
    {plain : StateM σ α} {see : α → β} {post weaker : α → List ε → Prop}
    (h : Records before journaled plain see post)
    (imp : ∀ answer events, post answer events → weaker answer events) :
    Records before journaled plain see weaker := by
  intro world
  obtain ⟨events, run, holds⟩ := h world
  exact ⟨events, run, imp _ _ holds⟩

/-- In some world the program gives the answer. -/
def Gives (program : StateM σ α) (answer : α) : Prop := ∃ world, (program.run world).1 = answer

/-- An answer that is recorded is one that the plain program gives. -/
theorem Records.given {before : List ε} {journaled : StateT (Array ε) (StateM σ) β}
    {plain : StateM σ α} {see : α → β} {post : α → List ε → Prop}
    (h : Records before journaled plain see post) :
    Records before journaled plain see fun answer events => post answer events ∧
    Gives plain answer := by
  intro world
  obtain ⟨events, run, holds⟩ := h world
  exact ⟨events, run, holds, world, rfl⟩

/-- A run that begins with an empty journal. -/
theorem Records.fromEmpty {journaled : StateT (Array ε) (StateM σ) β} {plain : StateM σ α}
    {see : α → β} {post : α → List ε → Prop} (h : Records [] journaled plain see post)
    (world : σ) :
    ∃ events,
      (journaled.run #[]).run world =
        ((see (plain.run world).1, events.toArray), (plain.run world).2) ∧
      post (plain.run world).1 events := h world

theorem records_pure {before : List ε} {answer : α} {shown : β} {see : α → β}
    {post : α → List ε → Prop} (same : shown = see answer) (h : post answer []) :
    Records before (pure shown : StateT (Array ε) (StateM σ) β) (pure answer) see post := by
  intro world
  exact ⟨[], by rw [List.append_nil, same]; rfl, h⟩

/-- Sequencing: the second part begins with the journal that the first one has left. -/
theorem Records.bind {before : List ε} {journaled : StateT (Array ε) (StateM σ) β}
    {plain : StateM σ α} {see : α → β} {post : α → List ε → Prop}
    {next : β → StateT (Array ε) (StateM σ) δ} {next' : α → StateM σ γ} {see' : γ → δ}
    {post' : γ → List ε → Prop} (first : Records before journaled plain see post)
    (rest : ∀ answer events, post answer events →
      Records (before ++ events) (next (see answer)) (next' answer) see'
        fun answer' more => post' answer' (events ++ more)) :
    Records before (journaled >>= next) (plain >>= next') see' post' := by
  intro world
  obtain ⟨events, run, holds⟩ := first world
  obtain ⟨more, run', holds'⟩ := rest _ _ holds (plain.run world).2
  refine ⟨events ++ more, ?_, holds'⟩
  rw [← List.append_assoc]
  change ((next ((journaled.run before.toArray).run world).1.1).run
    ((journaled.run before.toArray).run world).1.2).run
      ((journaled.run before.toArray).run world).2 = _
  rw [run]
  exact run'

/-- A request that is not noted. -/
theorem records_lift {before : List ε} (plain : StateM σ α) :
    Records before (liftM plain : StateT (Array ε) (StateM σ) α) plain id
      fun _ events => events = [] := by
  intro world
  exact ⟨[], by rw [List.append_nil]; rfl, rfl⟩

theorem records_noting {before : List Event} (event : α → Event) (plain : StateM σ α) :
    Records before (noting event plain) plain id fun answer events => events = [event answer] := by
  intro world
  refine ⟨[event (plain.run world).1], ?_, rfl⟩
  rw [← List.push_toArray]
  rfl

/-- The answer of a request about a handle, with the number that the handle keeps. -/
abbrev numbered (number : Nat) (answer : α × H) : α × Numbered H := (answer.1, ⟨number, answer.2⟩)

theorem records_notingUse {before : List Event} (event : Except Fault α → Event) (number : Nat)
    (plain : StateM σ (Except Fault α × H)) :
    Records before (notingUse event number plain) plain (numbered number)
      fun answer events => events = [event answer.1] := by
  intro world
  refine ⟨[event (plain.run world).1.1], ?_, rfl⟩
  rw [← List.push_toArray]
  rfl

section

variable (backend : Backend (StateM σ) H) (observer : Observer (StateM σ))

/-- How many load requests a journal lists, which is the number of the next handle. -/
def loadCount (events : List Event) : Nat := events.countP (·.isLoad)

theorem records_load {before : List Event} (entry : ListedModel) (device : Device) :
    Records before (backend.journaled.load entry device) (backend.load entry device)
      (Except.map (Numbered.mk (loadCount before)))
      fun answer events => events = [.load entry device (faultOf? answer)] := by
  intro world
  refine ⟨[.load entry device (faultOf? ((backend.load entry device).run world).1)], ?_, rfl⟩
  rw [← List.push_toArray, loadCount, ← List.countP_toArray]
  rfl

theorem records_describe {before : List Event} (number : Nat) (entry : ListedModel) (handle : H) :
    Records before (backend.journaled.describe entry ⟨number, handle⟩)
      (backend.describe entry handle) id
      fun info events => events = [.describe number entry info] :=
  records_noting _ _

theorem records_embed {before : List Event} (number : Nat) (handle : H) (text : String) :
    Records before (backend.journaled.embed ⟨number, handle⟩ text) (backend.embed handle text)
      (numbered number)
      fun answer events => events = [.embed number text (faultOf? answer.1)] :=
  records_notingUse (fun r => .embed number text (faultOf? r)) number (backend.embed handle text)

theorem records_backendBarrier {before : List Event} (number : Nat) (handle : H) :
    Records before (backend.journaled.barrier ⟨number, handle⟩) (backend.barrier handle)
      (numbered number) fun answer events => events = [.barrier number (faultOf? answer.1)] :=
  records_notingUse (fun r => .barrier number (faultOf? r)) number (backend.barrier handle)

theorem records_release {before : List Event} (number : Nat) (handle : H) :
    Records before (backend.journaled.release ⟨number, handle⟩) (backend.release handle) id
      fun _ events => events = [.release number] :=
  records_noting _ _

theorem records_now {before : List Event} :
    Records before observer.journaled.now observer.now id fun _ events => events = [] :=
  records_lift _

theorem records_advance {before : List Event} (steps : Nat) :
    Records before (observer.journaled.advance steps) (observer.advance steps) id
      fun _ events => events = [.advance steps] :=
  records_noting _ _

theorem records_announce {before : List Event} (message : String) :
    Records before (observer.journaled.announce message) (observer.announce message) id
      fun _ events => events = [.announce message] :=
  records_noting _ _

theorem records_log {before : List Event} (event : LogEvent) :
    Records before (observer.journaled.log event) (observer.log event) id
      fun _ events => events = [.log event] :=
  records_noting _ _

end

end EmbeddingLatency.Bench
