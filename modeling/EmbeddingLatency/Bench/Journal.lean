import EmbeddingLatency.Bench.Backend
import EmbeddingLatency.Bench.Observer
import EmbeddingLatency.Decimal.Fixed
import EmbeddingLatency.Query
import EmbeddingLatency.Text.Layout

/-!
# Journals

A journal lists what has happened between a benchmark, its backend and its observer, in order.
Progress and live models are not kept but read off the journal. Any backend and any observer can be
run with a journal beside them, which changes nothing in what they do. The handles of a journaled
backend are numbered, so that the journal says which of them each request is about.
-/

set_option autoImplicit false

namespace EmbeddingLatency.Bench

/-- A handle with the number of load requests in front of its own. -/
structure Numbered (H : Type) where
  number : Nat
  handle : H

/-- Something that has happened; a request that failed is listed with its fault. Requests about a
    handle are listed with its number. -/
inductive Event where
  | load (entry : ListedModel) (device : Device) (fault : Option Fault)
  | describe (handle : Nat) (entry : ListedModel) (info : ModelFacts)
  | embed (handle : Nat) (text : String) (fault : Option Fault)
  | embedAll (handle : Nat) (texts : List String) (fault : Option Fault)
  | barrier (handle : Nat) (fault : Option Fault)
  | release (handle : Nat)
  | advance (steps : Nat)
  | announce (message : String)
  | log (event : LogEvent)
  deriving DecidableEq, Repr

/-- What has happened, the first event first. -/
abbrev Journal := Array Event

/-- The fault of a request. -/
def faultOf? {α : Type} : Except Fault α → Option Fault
  | .error fault => some fault
  | .ok _ => none

namespace Event

/-- Is the event a load request? -/
def isLoad : Event → Bool
  | .load .. => true
  | _ => false

/-- Is the event a request to the backend? -/
def isRequest : Event → Bool
  | .advance _ | .announce _ | .log _ => false
  | _ => true

/-- By how much an event moves the progress bar. -/
def progress : Event → Nat
  | .advance steps => steps
  | _ => 0

/-- By how much an event changes the number of loaded models. -/
def liveChange : Event → Int
  | .load _ _ none => 1
  | .release _ => -1
  | _ => 0

/-- The message that stands beside the progress bar after an event. The bar shows no tabs. -/
def messageAfter (message : String) : Event → String
  | .announce message => Text.withoutTabs message
  | _ => message

end Event

/-- What has been asked of the backend. -/
def requests (events : List Event) : List Event := events.filter (·.isRequest)

/-- How far the progress bar has come. -/
def position (events : List Event) : Nat := events.foldr (·.progress + ·) 0

/-- How many models are loaded. -/
def live (events : List Event) : Int := events.foldr (·.liveChange + ·) 0

@[simp] theorem position_nil : position [] = 0 := rfl

@[simp] theorem position_cons (event : Event) (rest : List Event) :
    position (event :: rest) = event.progress + position rest := rfl

@[simp] theorem live_nil : live [] = 0 := rfl

@[simp] theorem live_cons (event : Event) (rest : List Event) :
    live (event :: rest) = event.liveChange + live rest := rfl

/-- What stands beside the progress bar. -/
def lastMessage (events : List Event) : String := events.foldl Event.messageAfter ""

/-- The log events of a list. -/
def logged (events : List Event) : List LogEvent :=
  events.filterMap fun
    | .log event => some event
    | _ => none

section

variable {m : Type → Type} {H : Type} [Monad m]

/-- Adds an event to the journal. -/
def note (event : Event) : StateT Journal m Unit := modify (·.push event)

/-- Makes a request and adds its event to the journal. -/
def noting {α : Type} (event : α → Event) (request : m α) : StateT Journal m α := do
  let answer ← (request : m α)
  note (event answer)
  return answer

/-- Makes a request about a handle and adds its event to the journal. -/
def notingUse {α : Type} (event : Except Fault α → Event) (number : Nat)
    (request : m (Except Fault α × H)) : StateT Journal m (Except Fault α × Numbered H) := do
  let (answer, handle) ← noting (fun r => event r.1) request
  return (answer, ⟨number, handle⟩)

/-- A backend that keeps a journal. -/
def Backend.journaled (backend : Backend m H) : Backend (StateT Journal m) (Numbered H) where
  accelerator := backend.accelerator
  load entry device := do
    let number := (← get).countP (·.isLoad)
    let answer ← noting (fun r => .load entry device (faultOf? r)) (backend.load entry device)
    return answer.map (Numbered.mk number)
  describe entry handle :=
    noting (fun info => .describe handle.number entry info) (backend.describe entry handle.handle)
  embed handle text :=
    notingUse (fun r => .embed handle.number text (faultOf? r)) handle.number
      (backend.embed handle.handle text)
  embedAll handle texts :=
    notingUse (fun r => .embedAll handle.number texts (faultOf? r)) handle.number
      (backend.embedAll handle.handle texts)
  barrier handle :=
    notingUse (fun r => .barrier handle.number (faultOf? r)) handle.number
      (backend.barrier handle.handle)
  release handle := noting (fun _ => .release handle.number) (backend.release handle.handle)

/-- An observer that keeps a journal. -/
def Observer.journaled (observer : Observer m) : Observer (StateT Journal m) where
  now := observer.now
  advance steps := noting (fun _ => .advance steps) (observer.advance steps)
  announce message := noting (fun _ => .announce message) (observer.announce message)
  log event := noting (fun _ => .log event) (observer.log event)

end

/-- A text in a trace: the name of its query size, or the text itself in brackets. -/
def traceText (text : String) : String :=
  match QuerySize.ofText? text with
  | some query => query.label
  | none => "[" ++ text ++ "]"

/-- The line of an event in a trace; only requests have one. -/
def traceLine? (position : Nat) (message : String) : Event → Option String
  | .load entry device _ =>
    some ("load " ++ entry.modelId ++ " on " ++ device.name ++ " @" ++ Decimal.digits position ++
      " [" ++ message ++ "]")
  | .describe .. => some "describe"
  | .embed _ text _ => some ("embed " ++ traceText text ++ " @" ++ Decimal.digits position)
  | .embedAll _ texts _ =>
    some ("batch " ++ Decimal.digits texts.length ++ " [" ++ texts.headD "" ++ "]")
  | .barrier .. => some ("sync @" ++ Decimal.digits position)
  | .release _ => some ("drop @" ++ Decimal.digits position)
  | _ => none

/-- The requests of a journal, one a line, each with the state of the progress bar. -/
def traceFrom (position : Nat) (message : String) : List Event → List String
  | [] => []
  | event :: rest =>
    (traceLine? position message event).toList ++
      traceFrom (position + event.progress) (event.messageAfter message) rest

/-- The trace of a journal. -/
def trace (events : List Event) : List String := traceFrom 0 "" events

end EmbeddingLatency.Bench
