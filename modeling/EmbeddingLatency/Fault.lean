/-!
# Faults

Everything that can go wrong in a benchmark is one of five kinds of fault with a text of its own.
The message of a fault names the kind and then gives the text. Whatever the fault, steps that went
well one after the other went well each (`bind_eq_ok`, `map_eq_ok`).
-/

set_option autoImplicit false

namespace EmbeddingLatency

/-- What has gone wrong. -/
inductive Fault where
  /-- A model's files, its session or its tokenizer could not be had. -/
  | model (detail : String)
  /-- Tokenization, the run of the graph or the reading of its output failed. -/
  | inference (detail : String)
  /-- The settings cannot be used. -/
  | config (detail : String)
  /-- A report could not be written down. -/
  | report (detail : String)
  /-- The file system refused. -/
  | io (detail : String)
  deriving DecidableEq, Repr

namespace Fault

/-- The text of a fault. -/
def detail : Fault → String
  | .model d => d
  | .inference d => d
  | .config d => d
  | .report d => d
  | .io d => d

/-- What is said in front of the text of a fault. -/
def heading : Fault → String
  | .model _ => "model error"
  | .inference _ => "inference error"
  | .config _ => "config error"
  | .report _ => "report error"
  | .io _ => "I/O error"

/-- The whole message of a fault. -/
def message (f : Fault) : String := f.heading ++ ": " ++ f.detail

end Fault

section Steps

variable {ε α β : Type} {x : Except ε α} {b : β}

theorem bind_eq_ok {f : α → Except ε β} (done : (x >>= f) = .ok b) :
    ∃ a, x = .ok a ∧ f a = .ok b := by
  cases x with
  | error e => cases done
  | ok a => exact ⟨a, rfl, done⟩

theorem map_eq_ok {f : α → β} (done : x.map f = .ok b) : ∃ a, x = .ok a ∧ f a = b := by
  cases x with
  | error e => cases done
  | ok a => exact ⟨a, rfl, Except.ok.inj done⟩

end Steps

end EmbeddingLatency
