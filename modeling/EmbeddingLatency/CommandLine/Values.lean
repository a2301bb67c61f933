import EmbeddingLatency.CommandLine.Grammar
import EmbeddingLatency.Decimal.Numeral

/-!
# Values on a command line

Counts are natural numbers of at most 64 bits, paths are not empty, and choices are named exactly.
-/

set_option autoImplicit false

namespace EmbeddingLatency.CommandLine

/-- A count. -/
def countValue {σ : Type} (set : Nat → σ → σ) : ValueReader σ := fun text =>
  match Decimal.unsigned? Decimal.maxWord text.toList with
  | some n => .ok (set n)
  | none => .error .numberRefused

/-- A path. -/
def pathValue {σ : Type} (set : String → σ → σ) : ValueReader σ := fun text =>
  if text = "" then .error .valueRefused else .ok (set text)

/-- Any text. -/
def textValue {σ : Type} (set : String → σ → σ) : ValueReader σ := fun text => .ok (set text)

/-- One of several named choices. -/
def choiceValue {σ α : Type} (names : List (String × α)) (set : α → σ → σ) : ValueReader σ :=
  fun text =>
    match names.find? (·.1 = text) with
    | some p => .ok (set p.2)
    | none => .error .valueRefused

end EmbeddingLatency.CommandLine
