import EmbeddingLatency.Proofs.Bench.Recording
import EmbeddingLatency.Throughput.Basic
import Mathlib.Data.Rat.Floor

/-!
# Passes over a corpus

What a throughput measurement asks of a loaded model, whatever the calls answer. Its steps are the
untimed batch and the barrier behind it, the batches that the texts are cut into, and the last
barrier. Each step is one call. `Taken` goes through the steps up to the first whose call ends the
measurement: a call that fails, or a timed batch that has not one vector for each of its texts.

Vectors are told from their number and width only, so the calls are written down with their answers.
Every part of a measurement has a lemma that says which steps it takes; `records_measure` puts them
together, and `measure_follows_steps` reads the outcome off the steps.
-/

set_option autoImplicit false

namespace EmbeddingLatency.Bench

/-- A call about a loaded model, with its answer. -/
inductive Call where
  | embed (text : String) (answer : Except Fault Embedding)
  | embedAll (texts : List String) (answer : Except Fault (List Embedding))
  | barrier (answer : Except Fault Unit)
  | release

section

variable {m : Type → Type} {H : Type} [Monad m]

/-- Makes a call and writes it down with its answer. -/
def answered {α : Type} (call : Except Fault α → Call) (request : m (Except Fault α × H)) :
    StateT (Array Call) m (Except Fault α × H) := do
  let answer ← (request : m (Except Fault α × H))
  modify (·.push (call answer.1))
  return answer

/-- A backend that writes down the calls about loaded models, whoever makes them. -/
def Backend.transcribed (backend : Backend m H) : Backend (StateT (Array Call) m) H where
  accelerator := backend.accelerator
  load entry device := backend.load entry device
  describe entry handle := backend.describe entry handle
  embed handle text := answered (.embed text) (backend.embed handle text)
  embedAll handle texts := answered (.embedAll texts) (backend.embedAll handle texts)
  barrier handle := answered .barrier (backend.barrier handle)
  release handle := do
    backend.release handle
    modify (·.push .release)

/-- An observer beside a backend that writes down calls. It makes none itself. -/
def Observer.besideCalls (observer : Observer m) : Observer (StateT (Array Call) m) where
  now := observer.now
  advance steps := observer.advance steps
  announce message := observer.announce message
  log event := observer.log event

end

section

variable {σ α H : Type}

theorem records_answered {before : List Call} (call : Except Fault α → Call)
    (plain : StateM σ (Except Fault α × H)) :
    Records before (answered call plain) plain id fun answer calls => calls = [call answer.1] := by
  intro world
  refine ⟨[call (plain.run world).1.1], ?_, rfl⟩
  rw [← List.push_toArray]
  rfl

end

end EmbeddingLatency.Bench

namespace EmbeddingLatency.Throughput

open EmbeddingLatency.Bench

/-- The texts are cut into parts, one behind the other, all of one size but for the last one. -/
structure CutInto (size : Nat) (texts : List String) (parts : List (List String)) : Prop where
  whole : parts.flatten = texts
  full : ∀ part ∈ parts.dropLast, part.length = size
  last : ∀ part ∈ parts, part ≠ [] ∧ part.length ≤ size

/-- The batches of some texts are cut from them. -/
theorem cutInto_batches {size : Nat} (positive : 0 < size) (texts : List String) :
    CutInto size texts (batches size texts) where
  whole := flatten_batches positive texts
  full := by
    intro part member
    obtain ⟨i, found⟩ := List.mem_iff_getElem?.mp member
    rw [List.getElem?_dropLast] at found
    split at found
    · rename_i inner
      -- another batch begins behind this one, so the texts reach that far
      have reaches := (lt_length_batches_iff positive texts (i + 1)).mp (by omega)
      rw [Nat.succ_mul] at reaches
      rw [getElem?_batches positive, if_pos (by omega)] at found
      cases found
      rw [List.length_take, List.length_drop]
      omega
    · cases found
  last := by
    intro part member
    obtain ⟨i, found⟩ := List.mem_iff_getElem?.mp member
    rw [getElem?_batches positive] at found
    split at found
    · rename_i begins
      cases found
      have length := List.length_take (i := size) (l := texts.drop (i * size))
      rw [List.length_drop] at length
      refine ⟨fun empty => ?_, by omega⟩
      rw [empty, List.length_nil] at length
      omega
    · cases found

/-- The number of batches, rounded up. -/
theorem length_batches_eq_ceil {size : Nat} (positive : 0 < size) (texts : List String) :
    (batches size texts).length = ⌈(texts.length / size : ℚ)⌉₊ := by
  apply eq_of_forall_lt_iff
  intro i
  rw [lt_length_batches_iff positive, Nat.lt_ceil, lt_div_iff₀ (by exact_mod_cast positive)]
  exact_mod_cast Iff.rfl

/-- A step of a measurement. -/
inductive Step where
  | warmUp (texts : List String)
  /-- A timed batch with its number, counted from one. -/
  | batch (number : Nat) (texts : List String)
  | barrier

/-- The call carries out the step, and the measurement goes on behind it. -/
inductive Step.Passes : Step → Call → Prop
  | warmUp {texts : List String} (vectors : List Embedding) :
      Step.Passes (.warmUp texts) (.embedAll texts (.ok vectors))
  | batch {number : Nat} {texts : List String} {vectors : List Embedding}
      (counted : vectors.length = texts.length) :
      Step.Passes (.batch number texts) (.embedAll texts (.ok vectors))
  | barrier : Step.Passes .barrier (.barrier (.ok ()))

/-- The call carries out the step and ends the measurement with a fault. -/
inductive Step.Stops : Step → Call → Fault → Prop
  | warmUp {texts : List String} (fault : Fault) :
      Step.Stops (.warmUp texts) (.embedAll texts (.error fault)) fault
  | batch {number : Nat} {texts : List String} (fault : Fault) :
      Step.Stops (.batch number texts) (.embedAll texts (.error fault)) fault
  | miscounted {number : Nat} {texts : List String} {vectors : List Embedding}
      (other : vectors.length ≠ texts.length) :
      Step.Stops (.batch number texts) (.embedAll texts (.ok vectors))
        (countFault number vectors.length texts.length)
  | barrier (fault : Fault) : Step.Stops .barrier (.barrier (.error fault)) fault

/-- How far some steps have been taken, with the calls that were made: all of them, or those up to
    the first that ends the measurement. -/
inductive Taken : List Step → Option Fault → List Call → Prop
  | all : Taken [] none []
  | stops {step : Step} {call : Call} {fault : Fault} (stops : step.Stops call fault)
      (left : List Step) : Taken (step :: left) (some fault) [call]
  | passes {step : Step} {call : Call} {rest : List Step} {stop : Option Fault} {calls : List Call}
      (passes : step.Passes call) (later : Taken rest stop calls) :
      Taken (step :: rest) stop (call :: calls)

/-- The untimed batch of at most a hundred texts, which is left out where there are none, and the
    barrier behind it. -/
def warmUpSteps (size : Nat) (texts : List String) : List Step :=
  if texts = [] then [.barrier]
  else [.warmUp (texts.take (min (min texts.length size) 100)), .barrier]

/-- The timed batches from a number on. -/
def batchSteps (number : Nat) : List (List String) → List Step
  | [] => []
  | part :: parts => .batch number part :: batchSteps (number + 1) parts

/-- All steps of a measurement. -/
def steps (size : Nat) (texts : List String) (parts : List (List String)) : List Step :=
  warmUpSteps size texts ++ batchSteps 1 parts ++ [.barrier]

example : steps 2 ["a", "b", "c"] [["a", "b"], ["c"]] =
    [.warmUp ["a", "b"], .barrier, .batch 1 ["a", "b"], .batch 2 ["c"], .barrier] := rfl

/-- The width of the first vector that a call has answered. -/
def vectorWidth? : Call → Option Nat
  | .embedAll _ (.ok vectors) => vectors.head?.map (·.length)
  | _ => none

/-- The width of the first vector of the first of some calls. -/
def firstWidth? (calls : List Call) : Option Nat := calls.head?.bind vectorWidth?

/-- What is reported of a measurement whose steps have all been taken. -/
structure Reports (size : Nat) (texts : List String) (parts : List (List String))
    (calls : List Call) (report : ThroughputOutcome) : Prop where
  numTexts : report.numTexts = texts.length
  batchSize : report.batchSize = size
  batches : report.batches = ⌈(texts.length / size : ℚ)⌉₊
  /-- The calls in the middle are those of the timed batches. -/
  timed : ∃ warm timed, calls = warm ++ timed ++ [.barrier (.ok ())] ∧
    Taken (warmUpSteps size texts) none warm ∧ Taken (batchSteps 1 parts) none timed ∧
    timed.length = report.batches ∧ report.embeddingDim = firstWidth? timed
  embeddingDim_eq_none_iff : report.embeddingDim = none ↔ texts = []

/-- What a measurement has come to after some calls. -/
structure PassRun (size : Nat) (texts : List String) (parts : List (List String))
    (outcome : Except Fault ThroughputOutcome) (calls : List Call) : Prop where
  stopped : ∀ fault, outcome = .error fault ↔ Taken (steps size texts parts) (some fault) calls
  completed : (∃ report, outcome = .ok report) ↔ Taken (steps size texts parts) none calls
  reports : ∀ report, outcome = .ok report → Reports size texts parts calls report

section Taken

variable {steps rest : List Step} {calls more : List Call}

theorem Taken.append {stop : Option Fault} (first : Taken steps none calls)
    (second : Taken rest stop more) : Taken (steps ++ rest) stop (calls ++ more) := by
  induction steps generalizing calls with
  | nil =>
    cases first
    exact second
  | cons step steps ih =>
    cases first with
    | passes passes later => exact .passes passes (ih later)

theorem Taken.cut {fault : Fault} (first : Taken steps (some fault) calls) (rest : List Step) :
    Taken (steps ++ rest) (some fault) calls := by
  induction steps generalizing calls with
  | nil => cases first
  | cons step steps ih =>
    cases first with
    | stops stops => exact .stops stops _
    | passes passes later => exact .passes passes (ih later)

theorem Taken.length_eq (taken : Taken steps none calls) : calls.length = steps.length := by
  induction steps generalizing calls with
  | nil =>
    cases taken
    rfl
  | cons step steps ih =>
    cases taken with
    | passes passes later => rw [List.length_cons, List.length_cons, ih later]

/-- No call carries out a step in two ways. -/
theorem Step.Stops.not_passes {step : Step} {call : Call} {fault : Fault}
    (stops : step.Stops call fault) : ¬step.Passes call := by
  intro passes
  cases stops with
  | miscounted other =>
    cases passes with
    | batch counted => exact other counted
  | _ => cases passes

theorem Step.Stops.unique {step : Step} {call : Call} {fault fault' : Fault}
    (stops : step.Stops call fault) (stops' : step.Stops call fault') : fault = fault' := by
  cases stops <;> cases stops' <;> rfl

/-- The calls tell how far the steps have been taken. -/
theorem Taken.unique {stop stop' : Option Fault} (taken : Taken steps stop calls)
    (taken' : Taken steps stop' calls) : stop = stop' := by
  induction taken with
  | all =>
    cases taken'
    rfl
  | stops stops left =>
    cases taken' with
    | stops stops' => rw [stops.unique stops']
    | passes passes => exact absurd passes stops.not_passes
  | passes passes later ih =>
    cases taken' with
    | stops stops' => exact absurd passes stops'.not_passes
    | passes passes' later' => exact ih later'

/-- The first timed call answers a vector, if there is one. -/
theorem firstWidth?_eq_none_iff {number : Nat} {parts : List (List String)}
    (filled : ∀ part ∈ parts, part ≠ []) (taken : Taken (batchSteps number parts) none calls) :
    firstWidth? calls = none ↔ parts = [] := by
  cases parts with
  | nil =>
    cases taken
    simp [firstWidth?]
  | cons part parts =>
    cases taken with
    | passes passes later =>
      cases passes with
      | @batch _ _ vectors counted =>
        have some : vectors ≠ [] := by
          rintro rfl
          exact filled part List.mem_cons_self (List.eq_nil_of_length_eq_zero counted.symm)
        simpa [firstWidth?, vectorWidth?] using some

theorem length_batchSteps (number : Nat) (parts : List (List String)) :
    (batchSteps number parts).length = parts.length := by
  induction parts generalizing number with
  | nil => rfl
  | cons part parts ih => rw [batchSteps, List.length_cons, List.length_cons, ih]

end Taken

/-- What a measurement reports that has taken all its steps. -/
theorem reports_of_taken {size : Nat} (positive : 0 < size) {texts : List String}
    {warm timed : List Call} (warmed : Taken (warmUpSteps size texts) none warm)
    (taken : Taken (batchSteps 1 (batches size texts)) none timed) (duration : Duration) :
    Reports size texts (batches size texts) (warm ++ timed ++ [.barrier (.ok ())])
      ⟨texts.length, size, batchCount size texts.length, duration, firstWidth? timed⟩ where
  numTexts := rfl
  batchSize := rfl
  batches := by rw [← length_batches positive, length_batches_eq_ceil positive]
  timed := by
    refine ⟨warm, timed, rfl, warmed, taken, ?_, rfl⟩
    rw [taken.length_eq, length_batchSteps, length_batches positive]
  embeddingDim_eq_none_iff := by
    have cut := cutInto_batches positive texts
    refine (firstWidth?_eq_none_iff (fun part member => (cut.last part member).1) taken).trans ?_
    constructor
    · intro none
      rw [← cut.whole, none, List.flatten_nil]
    · rintro rfl
      exact batches.eq_1 size

/-- The steps that have been taken tell what the measurement has come to. -/
theorem passRun_of_taken {size : Nat} {texts : List String} {parts : List (List String)}
    {outcome : Except Fault ThroughputOutcome} {calls : List Call}
    (taken : Taken (steps size texts parts) (faultOf? outcome) calls)
    (reports : ∀ report, outcome = .ok report → Reports size texts parts calls report) :
    PassRun size texts parts outcome calls := by
  refine ⟨?_, ?_, reports⟩
  · intro fault
    constructor
    · rintro rfl
      exact taken
    · intro stopped
      cases outcome with
      | ok report => cases taken.unique stopped
      | error fault =>
        cases taken.unique stopped
        rfl
  · constructor
    · rintro ⟨report, rfl⟩
      exact taken
    · intro completed
      cases outcome with
      | ok report => exact ⟨report, rfl⟩
      | error fault => cases taken.unique completed

section Runs

variable {σ H : Type} (backend : Backend (StateM σ) H) (observer : Observer (StateM σ))

theorem records_warmUp {before : List Call} {size : Nat} (positive : 0 < size) (texts : List String)
    (handle : H) :
    Records before (warmUp backend.transcribed (texts.take (min size warmupLimit)) handle)
      (warmUp backend (texts.take (min size warmupLimit)) handle) id
      fun answer calls => Taken (warmUpSteps size texts) (faultOf? answer.1) calls := by
  cases texts with
  | nil =>
    rw [List.take_nil]
    unfold warmUp
    rw [if_pos List.isEmpty_nil, if_pos List.isEmpty_nil]
    refine (records_answered .barrier (backend.barrier handle)).mono ?_
    rintro ⟨fault | _, handle⟩ calls rfl
    · exact .stops (.barrier fault) _
    · exact .passes .barrier .all
  | cons text rest =>
    have some : ¬((text :: rest).take (min size warmupLimit)).isEmpty = true := by
      simp [warmupLimit, positive.ne']
    have plan : warmUpSteps size (text :: rest) =
        [.warmUp ((text :: rest).take (min size warmupLimit)), .barrier] := by
      rw [warmUpSteps, if_neg (List.cons_ne_nil _ _), Nat.min_assoc, Nat.min_comm,
        ← List.take_eq_take_min]
      rfl
    rw [plan]
    unfold warmUp
    rw [if_neg some, if_neg some]
    refine (records_answered (.embedAll _) (backend.embedAll handle _)).bind ?_
    rintro ⟨fault | vectors, handle⟩ calls rfl
    · exact records_pure rfl (.stops (.warmUp fault) _)
    · refine (records_answered .barrier (backend.barrier handle)).mono ?_
      rintro ⟨fault | _, handle⟩ calls rfl
      · exact .passes (.warmUp vectors) (.stops (.barrier fault) _)
      · exact .passes (.warmUp vectors) (.passes .barrier .all)

theorem records_timedBatches {before : List Call} (pass : Pass) (done embedded : Nat)
    (width : Option Nat) {parts : List (List String)} (filled : ∀ part ∈ parts, part ≠ [])
    (handle : H) :
    Records before
      (timedBatches backend.transcribed observer.besideCalls pass done embedded width parts handle)
      (timedBatches backend observer pass done embedded width parts handle) id
      fun answer calls =>
        Taken (batchSteps (done + 1) parts) (faultOf? answer.1) calls ∧
        ∀ found, answer.1 = .ok found → found = width.or (firstWidth? calls) := by
  induction parts generalizing before done embedded width handle with
  | nil =>
    refine records_pure rfl ⟨.all, ?_⟩
    rintro found ⟨⟩
    exact (Option.or_none).symm
  | cons part parts ih =>
    unfold timedBatches
    refine (records_answered (.embedAll part) (backend.embedAll handle part)).bind ?_
    rintro ⟨fault | vectors, handle⟩ calls rfl
    · exact records_pure rfl ⟨.stops (.batch fault) _, by rintro found ⟨⟩⟩
    · dsimp only [id]
      split
      · rename_i other
        exact records_pure rfl ⟨.stops (.miscounted other) _, by rintro found ⟨⟩⟩
      · rename_i counted
        have counted : vectors.length = part.length := not_not.mp counted
        -- the batch is not empty, so from here on the width is settled
        obtain ⟨vector, others, rfl⟩ : ∃ vector others, vectors = vector :: others := by
          apply List.exists_cons_of_ne_nil
          rintro rfl
          exact filled part List.mem_cons_self (List.eq_nil_of_length_eq_zero counted.symm)
        have later : ∀ before' : List Call, Records before'
            (timedBatches backend.transcribed observer.besideCalls pass (done + 1)
              (embedded + part.length) (width.or (some vector.length)) parts handle)
            (timedBatches backend observer pass (done + 1) (embedded + part.length)
              (width.or (some vector.length)) parts handle) id
            fun answer more =>
              Taken (batchSteps (done + 1) (part :: parts)) (faultOf? answer.1)
                (.embedAll part (.ok (vector :: others)) :: more) ∧
              ∀ found, answer.1 = .ok found → found = width.or (some vector.length) := by
          intro before'
          refine (ih (done + 1) (embedded + part.length) _
            (fun part member => filled part (List.mem_cons_of_mem _ member)) handle).mono ?_
          rintro answer more ⟨taken, widths⟩
          refine ⟨.passes (.batch counted) taken, fun found same => ?_⟩
          rw [widths found same, Option.or_assoc, Option.some_or]
        split
        · refine (records_lift observer.now).bind ?_
          rintro now quiet rfl
          refine (records_lift (observer.log _)).bind ?_
          rintro _ quiet rfl
          exact later _
        · exact later _

/-- A measurement takes its steps up to the first that ends it, and reports what the calls have
    answered. -/
theorem records_measure {before : List Call} {size : Nat} (positive : 0 < size)
    (texts : List String) (handle : H) :
    Records before (measure backend.transcribed observer.besideCalls texts size handle)
      (measure backend observer texts size handle) id
      fun answer calls =>
        Taken (steps size texts (batches size texts)) (faultOf? answer.1) calls ∧
        ∀ report, answer.1 = .ok report →
          Reports size texts (batches size texts) calls report := by
  have cut := cutInto_batches positive texts
  have filled : ∀ part ∈ batches size texts, part ≠ [] :=
    fun part member => (cut.last part member).1
  unfold measure
  rw [if_neg positive.ne', if_neg positive.ne']
  refine (records_warmUp backend positive texts handle).bind ?_
  rintro ⟨fault | _, handle⟩ warm warmed
  · refine records_pure rfl ⟨?_, by rintro report ⟨⟩⟩
    rw [List.append_nil, steps, List.append_assoc]
    exact warmed.cut _
  · refine (records_lift observer.now).bind ?_
    rintro start quiet rfl
    refine (records_timedBatches backend observer _ 0 0 none filled handle).bind ?_
    rintro ⟨fault | width, handle⟩ timed ⟨taken, widths⟩
    · refine records_pure rfl ⟨?_, by rintro report ⟨⟩⟩
      rw [List.append_nil, List.nil_append, steps]
      exact (warmed.append taken).cut _
    · refine (records_answered .barrier (backend.barrier handle)).bind ?_
      rintro ⟨fault | _, handle⟩ last rfl
      · refine records_pure rfl ⟨?_, by rintro report ⟨⟩⟩
        rw [List.append_nil, List.nil_append, ← List.append_assoc]
        exact (warmed.append taken).append (.stops (.barrier fault) _)
      · refine (records_lift observer.now).bind ?_
        rintro stop quiet rfl
        have found : width = firstWidth? timed := (widths width rfl).trans Option.none_or
        refine records_pure rfl ⟨?_, ?_⟩
        · rw [List.append_nil, List.append_nil, List.nil_append, ← List.append_assoc]
          exact (warmed.append taken).append (.passes .barrier .all)
        · rintro report ⟨⟩
          rw [List.append_nil, List.append_nil, List.nil_append, ← List.append_assoc, found]
          exact reports_of_taken positive warmed taken _

end Runs

/-- **The steps of a throughput measurement.** Whatever a loaded model answers, a measurement with
    written calls gives the outcome of the plain one. Without a batch size it makes no call.
    Otherwise it takes its steps up to the first that ends it: it fails exactly with the fault of
    that step, and answers a report exactly when there is no such step. The report counts the texts
    and the timed batches and shows the width of the first vector. -/
theorem measure_follows_steps {σ H : Type} (backend : Backend (StateM σ) H)
    (observer : Observer (StateM σ)) (texts : List String) (size : Nat) (handle : H)
    (before : List Call) (world : σ) :
    ∃ outcome handle' calls world',
      (measure backend observer texts size handle).run world = ((outcome, handle'), world') ∧
      ((measure backend.transcribed observer.besideCalls texts size handle).run
        before.toArray).run world = (((outcome, handle'), (before ++ calls).toArray), world') ∧
      (size = 0 →
        outcome = .error (.config "batch size must be greater than zero") ∧ calls = []) ∧
      (0 < size → ∃ parts, CutInto size texts parts ∧ PassRun size texts parts outcome calls) := by
  rcases Nat.eq_zero_or_pos size with rfl | positive
  · refine ⟨_, handle, [], world, rfl, ?_, fun _ => ⟨rfl, rfl⟩,
      fun positive => absurd positive (by decide)⟩
    rw [List.append_nil]
    rfl
  · obtain ⟨calls, run, taken, reports⟩ :=
      @records_measure _ _ backend observer before _ positive texts handle world
    refine ⟨_, _, calls, _, rfl, run, fun none => absurd none positive.ne',
      fun _ => ⟨batches size texts, cutInto_batches positive texts, passRun_of_taken taken reports⟩⟩

end EmbeddingLatency.Throughput
