import EmbeddingLatency.Proofs.Json.Entries

/-!
# Documents that are passed over

A document is passed over without regard to what it says: nesting has no limit, and what is left is
the text behind it. The brackets that are open are kept in a stack, so what is proved of a document
holds inside of any brackets: the passing goes on with them behind it (`Passes`).
-/

set_option autoImplicit false

namespace EmbeddingLatency.Json

/-- Documents are scalars, arrays or objects; the parts of the latter are smaller. -/
@[elab_as_elim]
theorem Written.induct {motive : Written → Prop} (scalar : ∀ w : Written, w.IsScalar → motive w)
    (array : ∀ items, (∀ w ∈ items, motive w) → motive (.array items))
    (object : ∀ members, (∀ m ∈ members, motive m.2) → motive (.object members)) (w : Written) :
    motive w :=
  match w with
  | .array items => array items fun w _ => Written.induct scalar array object w
  | .object members => object members fun m _ => Written.induct scalar array object m.2
  | .null => scalar .null trivial
  | .bool b => scalar (.bool b) trivial
  | .number token => scalar (.number token) trivial
  | .text s => scalar (.text s) trivial
termination_by sizeOf w
decreasing_by
  · have := List.sizeOf_lt_of_mem ‹_ ∈ items›
    simp only [Written.array.sizeOf_spec]
    omega
  · obtain ⟨key, value⟩ := m
    have := List.sizeOf_lt_of_mem ‹_ ∈ members›
    simp only [Written.object.sizeOf_spec, Prod.mk.sizeOf_spec] at this ⊢
    omega

/-- What follows open brackets, from a place where one of their values has been passed over, or
    where the innermost of them has just been opened. -/
def passBehind (first : Bool) (stack : List Bracket) (text : List Char) :
    Except ReadFault (List Char) :=
  match passOn first stack text with
  | .error e => .error e
  | .ok (.complete rest) => .ok rest
  | .ok (.more text stack) => pass stack text

/-- However the document is spelled, inside of any brackets: it is passed over, and then the
    brackets go on. -/
def Written.Passes (w : Written) : Prop :=
  ∀ text, Spelled w text → ∀ stack input rest, EndsNumber rest → skipGap input = text ++ rest →
    pass stack input = passBehind false stack rest

section Steps

variable {stack : List Bracket} {first : Bool} {text rest : List Char}

/-- A value is passed over up to its end or up to the bracket that it begins with. -/
theorem pass_eq {c : Char} {tail : List Char} {bracket : Option Bracket}
    (found : skipGap text = c :: tail) (passed : passFrom c tail = .ok (bracket, rest)) :
    pass stack text = passBehind bracket.isSome (bracket.toList ++ stack) rest := by
  rw [pass]
  split
  case h_1 empty => simp [found] at empty
  case h_2 opened =>
    obtain ⟨rfl, rfl⟩ := List.cons.inj (found.symm.trans opened)
    split
    case h_1 failed => simp [passed] at failed
    case h_2 read =>
      obtain ⟨rfl, rfl⟩ := Prod.mk.inj (Except.ok.inj (passed.symm.trans read))
      rw [passBehind]
      split <;> simp_all

theorem passBehind_square_closed (closed : nextItem first text = .ok (.closed rest)) :
    passBehind first (.square :: stack) text = passBehind false stack rest := by
  simp only [passBehind, passOn, closed]

theorem passBehind_square_more (more : nextItem first text = .ok (.more rest)) :
    passBehind first (.square :: stack) text = pass (.square :: stack) rest := by
  simp only [passBehind, passOn, more]

theorem passBehind_brace_closed (closed : nextMember first text = .ok (.closed rest)) :
    passBehind first (.brace :: stack) text = passBehind false stack rest := by
  simp only [passBehind, passOn, closed]

theorem passBehind_brace_more {inside behind : List Char}
    (more : nextMember first text = .ok (.more inside)) (passed : passText inside = .ok behind)
    (pointed : colon behind = .ok rest) :
    passBehind first (.brace :: stack) text = pass (.brace :: stack) rest := by
  simp only [passBehind, passOn, more, passed, pointed, Except.map]

end Steps

section Lists

variable {stack : List Bracket} {first : Bool} {text : List Char}

/-- The items of an array are passed over up to its closing bracket. -/
theorem passBehind_items {ws : List Written} (listed : Listed Spelled ']' first ws text)
    (passes : ∀ w ∈ ws, w.Passes) (rest : List Char) :
    passBehind first (.square :: stack) (text ++ rest) = passBehind false stack rest := by
  induction listed with
  | closed space =>
    rw [List.append_assoc]
    exact passBehind_square_closed (nextItem_close space rest)
  | @entry first w later before inside text others space inner spelled more ih =>
    have ends := more.endsNumber (by decide) rest
    have found := nextItem_spelled first space inner spelled (others ++ rest)
    have passed := passes w List.mem_cons_self text spelled (.square :: stack) _ _ ends
      (spelled.skipGap_append isSpace_nil _)
    simp only [List.append_assoc]
    rw [passBehind_square_more found]
    exact passed.trans (ih fun v member => passes v (List.mem_cons_of_mem w member))

/-- The members of an object are passed over up to its closing brace. -/
theorem passBehind_members {ms : List (String × Written)}
    (listed : Listed (Labelled Spelled) '\x7d' first ms text) (passes : ∀ m ∈ ms, m.2.Passes)
    (rest : List Char) :
    passBehind first (.brace :: stack) (text ++ rest) = passBehind false stack rest := by
  induction listed with
  | closed space =>
    rw [List.append_assoc]
    exact passBehind_brace_closed (nextMember_close space rest)
  | @entry first m later before inside text others space inner labelled more ih =>
    have ends := more.endsNumber (by decide) rest
    obtain ⟨body, behind, start, value, named, spelled, found, pointed, gap⟩ :=
      nextMember_labelled first space inner labelled (others ++ rest)
    simp only [List.append_assoc]
    rw [passBehind_brace_more found (named.passText_append behind) pointed,
      passes m List.mem_cons_self value spelled _ _ _ ends gap,
      ih fun n member => passes n (List.mem_cons_of_mem m member)]

end Lists

theorem passFrom_number {c : Char} {tail rest : List Char} {n : Numeral}
    (first : c = '-' ∨ c.isDigit = true)
    (read : numeral .malformed (c :: tail) = .ok (n, rest)) :
    passFrom c tail = .ok (none, rest) := by
  unfold passFrom
  split
  case h_7 => rw [if_pos first, read]; rfl
  all_goals simp at first

/-- Scalars are passed over; numerals may have any size. -/
theorem Written.IsScalar.passes {w : Written} (isScalar : w.IsScalar) : w.Passes := by
  intro text spelled stack input rest ends found
  cases spelled with
  | null => exact pass_eq found rfl
  | yes => exact pass_eq found rfl
  | no => exact pass_eq found rfl
  | number isNumeral =>
    obtain ⟨n, read⟩ : ∃ n, numeral .malformed (_ ++ rest) = .ok (n, rest) :=
      numeral_append isNumeral ends
    obtain ⟨c, tail, written, first⟩ := isNumeral.exists_cons
    rw [written, List.cons_append] at found read
    exact pass_eq found (passFrom_number first read)
  | @text s body spells =>
    have passed : passFrom '"' (body ++ ['"'] ++ rest) = .ok (none, rest) := by
      rw [List.append_assoc, List.singleton_append, passFrom, spells.passText_append]
      rfl
    exact pass_eq found passed
  | array => exact isScalar.elim
  | object => exact isScalar.elim

/-- Every document is passed over. -/
theorem Written.passes (w : Written) : w.Passes := by
  -- An opening bracket is the only step of `pass` here: the list behind it does the rest.
  induction w using Written.induct with
  | scalar w isScalar => exact isScalar.passes
  | array items ih =>
    intro text spelled stack input rest _ found
    cases spelled with
    | array listed => exact (pass_eq found rfl).trans (passBehind_items listed ih rest)
  | object members ih =>
    intro text spelled stack input rest _ found
    cases spelled with
    | object listed => exact (pass_eq found rfl).trans (passBehind_members listed ih rest)

/-- Every document is accepted where its value does not matter. -/
theorem ignored_accepts (w : Written) : Reader.Accepts ignored w () := by
  intro text spelled input rest ends found
  have passed : pass [] input = .ok rest := w.passes text spelled [] input rest ends found
  simp only [ignored, passed, Except.map]

end EmbeddingLatency.Json
