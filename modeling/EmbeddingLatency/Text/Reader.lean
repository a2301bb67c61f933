/-!
# Readers

A reader takes a value off the front of a text and leaves the rest. It comes with the proof that
the rest is shorter, so a loop over a reader ends by the length of the text and needs no bound of
its own.
-/

set_option autoImplicit false

namespace EmbeddingLatency.Text

/-- A reading step that fails with an `ε` or takes an `α` off the front of a text. -/
structure Reader (ε α : Type) where
  run : List Char → Except ε (α × List Char)
  shorter : ∀ {text value rest}, run text = .ok (value, rest) → rest.length < text.length

namespace Reader

variable {ε α β : Type}

/-- A reader whose values are changed by a function that may refuse them. -/
def refine (r : Reader ε α) (f : α → Except ε β) : Reader ε β where
  run text :=
    match r.run text with
    | .error e => .error e
    | .ok (value, rest) =>
      match f value with
      | .error e => .error e
      | .ok result => .ok (result, rest)
  shorter := by
    intro text value rest h
    split at h
    · simp at h
    · rename_i v tail hv
      split at h
      · simp at h
      · simp only [Except.ok.injEq, Prod.mk.injEq] at h
        exact h.2 ▸ r.shorter hv

/-- A reader whose values are changed by a function. -/
def map (r : Reader ε α) (f : α → β) : Reader ε β := r.refine fun value => .ok (f value)

end Reader

end EmbeddingLatency.Text
