import EmbeddingLatency.Text.Blank
import EmbeddingLatency.Text.Layout
import EmbeddingLatency.Text.Visible
import EmbeddingLatency.Timestamp

/-!
# Log events

An event has a level, a target that names the part of the program it comes from, and a message. A
filter is a list of directives, each of which lets a target's events through up to a level. The
longest target that an event's target begins with decides; events that no directive speaks of are
held back.
-/

set_option autoImplicit false

namespace EmbeddingLatency

/-- How urgent an event is. -/
inductive LogLevel where
  | error
  | warn
  | info
  | debug
  | trace
  deriving DecidableEq, Repr

namespace LogLevel

/-- The name of a level. -/
def name : LogLevel → String
  | .error => "ERROR"
  | .warn => "WARN"
  | .info => "INFO"
  | .debug => "DEBUG"
  | .trace => "TRACE"

/-- How much a level lets through; the most urgent one least. -/
def verbosity : LogLevel → Nat
  | .error => 1
  | .warn => 2
  | .info => 3
  | .debug => 4
  | .trace => 5

/-- All levels by the names that directives use. -/
def names : List (String × LogLevel) :=
  [("error", .error), ("warn", .warn), ("info", .info), ("debug", .debug), ("trace", .trace)]

end LogLevel

/-- Something that is said while the program runs. -/
structure LogEvent where
  level : LogLevel
  target : String
  message : String
  deriving DecidableEq, Repr

/-- What an event says, behind its target; the log shows control characters. -/
def LogEvent.body (event : LogEvent) : String :=
  event.target ++ ": " ++ Text.visible event.message

/-- An event as a line of the log. Levels are as wide as the longest of them. -/
def LogEvent.line (event : LogEvent) (time : Timestamp) : String :=
  time.stamp ++ " " ++ Text.padLeft 5 event.level.name ++ " " ++ event.body

example :
    (LogEvent.line ⟨.info, "runner", "done"⟩ ⟨1700000000, 1234567⟩) =
      "2023-11-14T22:13:20.001234Z  INFO runner: done" := by decide +kernel

/-- What a filter says of the targets that begin with a text. -/
structure LogDirective where
  target : String
  /-- The least urgent level that is let through; no level lets nothing through. -/
  level : Option LogLevel
  deriving DecidableEq, Repr

/-- A list of directives. -/
abbrev LogFilter := List LogDirective

namespace LogFilter

/-- What is let through where nothing else is asked for. -/
def default : LogFilter :=
  [⟨"embed_bench", some .info⟩, ⟨"hf_hub", some .warn⟩, ⟨"ort", some .warn⟩]

/-- A level, where `off` stands for none. -/
def level? (text : String) : Option (Option LogLevel) :=
  if text = "off" then some none
  else (LogLevel.names.find? (·.1 = text)).map fun p => some p.2

/-- One directive: a level for all targets, a target with a level, or a target alone, which is let
    through altogether. -/
def directive? (text : String) : Option LogDirective :=
  match Text.splitOnce ['='] text.toList with
  | some (target, level) =>
    (level? (String.ofList level)).map fun l => ⟨String.ofList target, l⟩
  | none =>
    match level? text with
    | some l => some ⟨"", l⟩
    | none => some ⟨text, some .trace⟩

/-- The filter that a text with directives between commas describes. -/
def ofText? (text : String) : Option LogFilter :=
  ((Text.splitBy (· = ',') text.toList).filter (· ≠ [])).mapM fun part =>
    directive? (String.ofList part)

/-- The directive that decides about a target. -/
def deciding? (filter : LogFilter) (target : String) : Option LogDirective :=
  (filter.filter fun d => d.target.isPrefixOf target).foldl
    (fun best d =>
      match best with
      | none => some d
      | some b => if b.target.length ≤ d.target.length then some d else some b)
    none

/-- Does the filter let an event through? -/
def admits (filter : LogFilter) (event : LogEvent) : Bool :=
  match filter.deciding? event.target with
  | some ⟨_, some level⟩ => event.level.verbosity ≤ level.verbosity
  | _ => false

end LogFilter

end EmbeddingLatency
