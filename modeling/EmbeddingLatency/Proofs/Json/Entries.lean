import EmbeddingLatency.Proofs.Json.Spelled
import Mathlib.Data.List.Forall2

/-!
# Entries that are read

What a reader of items or of members does at one entry of a list, however the list is spelled:
it finds the entry behind its comma and its gaps, reads it, and goes on behind it.
`Reader.Accepts` is what is known of the reader of one entry, and what follows for the whole
list is an induction over `Listed`.
-/

set_option autoImplicit false

namespace EmbeddingLatency.Json

/-- However the document is spelled, the reader takes it and gives `a`. -/
def Reader.Accepts {α : Type} (r : Reader α) (w : Written) (a : α) : Prop :=
  ∀ text, Spelled w text → r.Takes text a

theorem Reader.Accepts.refine {α β : Type} {r : Reader α} {w : Written} {a : α}
    {f : α → Except ReadFault β} {b : β} (accepts : r.Accepts w a) (changed : f a = .ok b) :
    Reader.Accepts (Text.Reader.refine r f) w b := by
  intro text spelled input rest ends found
  have read := accepts text spelled input rest ends found
  simp only [Text.Reader.refine, read, changed]

theorem Reader.Accepts.map {α β : Type} {r : Reader α} {w : Written} {a : α}
    (accepts : r.Accepts w a)
    (f : α → β) : Reader.Accepts (Text.Reader.map r f) w (f a) := accepts.refine rfl

section Beginnings

variable {w : Written} {text gap : List Char}

/-- A document begins with a character that neither is a gap nor closes an array. -/
theorem Spelled.exists_cons (spelled : Spelled w text) :
    ∃ c tail, text = c :: tail ∧ isGap c = false ∧ c ≠ ']' := by
  cases spelled with
  | number isNumeral =>
    obtain ⟨c, others, text, first⟩ := isNumeral.exists_cons
    refine ⟨c, others, text, ?_⟩
    have digits : ∀ d ∈ [' ', '\n', '\t', '\r', ']'], d ≠ '-' ∧ d.isDigit = false := by simp
    have apart : c ∉ [' ', '\n', '\t', '\r', ']'] := fun member => by simp_all
    simp only [List.mem_cons, List.not_mem_nil, or_false, not_or] at apart
    simp [isGap, apart]
  | _ => exact ⟨_, _, rfl, rfl, by decide⟩

/-- A gap in front of a document is skipped, and nothing of the document. -/
theorem Spelled.skipGap_append (spelled : Spelled w text) (space : IsSpace gap) (rest : List Char) :
    skipGap (gap ++ (text ++ rest)) = text ++ rest := by
  obtain ⟨c, tail, rfl, solid, -⟩ := spelled.exists_cons
  rw [Json.skipGap_append space]
  exact skipGap_cons solid _

end Beginnings

section Next

variable {first : Bool} {gap before inside rest : List Char}

theorem nextItem_close (space : IsSpace gap) (rest : List Char) :
    nextItem first (gap ++ ']' :: rest) = .ok (.closed rest) := by
  rw [nextItem, skipGap_append space, skipGap_cons rfl]
  rfl

theorem nextMember_close (space : IsSpace gap) (rest : List Char) :
    nextMember first (gap ++ '\x7d' :: rest) = .ok (.closed rest) := by
  rw [nextMember, skipGap_append space, skipGap_cons rfl]
  rfl

/-- An item is found behind its comma. -/
theorem nextItem_entry {c : Char} (space : IsSpace before) (inner : IsSpace inside)
    (solid : isGap c = false) (opens : c ≠ ']') :
    nextItem first (before ++ (separator first ++ (inside ++ c :: rest))) =
      .ok (.more (c :: rest)) := by
  cases first with
  | true =>
    rw [nextItem, skipGap_append space, separator, if_pos rfl, List.nil_append,
      skipGap_append inner, skipGap_cons solid]
    simp [opens]
  | false =>
    rw [nextItem, skipGap_append space, separator, if_neg (by decide), List.singleton_append,
      skipGap_cons rfl]
    simp [skipGap_append inner, skipGap_cons solid, opens]

/-- A member is found behind its comma, from inside of its key. -/
theorem nextMember_entry (space : IsSpace before) (inner : IsSpace inside) :
    nextMember first (before ++ (separator first ++ (inside ++ '"' :: rest))) =
      .ok (.more rest) := by
  have solid : isGap '"' = false := rfl
  cases first with
  | true =>
    rw [nextMember, skipGap_append space, separator, if_pos rfl, List.nil_append,
      skipGap_append inner, skipGap_cons solid]
    rfl
  | false =>
    rw [nextMember, skipGap_append space, separator, if_neg (by decide), List.singleton_append,
      skipGap_cons rfl]
    simp [skipGap_append inner, skipGap_cons solid]

end Next

section Items

variable {α : Type} {item : Reader α} {first : Bool} {text rest : List Char}

theorem items_closed (closed : nextItem first text = .ok (.closed rest)) :
    items item first text = .ok ([], rest) := by
  rw [items]
  split
  case h_1 failed => simp [closed] at failed
  case h_2 found =>
    obtain rfl := Next.closed.inj (Except.ok.inj (closed.symm.trans found))
    rfl
  case h_3 opened => simp [closed] at opened

theorem items_more {later : List Char} {a : α} (more : nextItem first text = .ok (.more later))
    (read : item.run later = .ok (a, rest)) :
    items item first text = (items item false rest).map fun (as, left) => (a :: as, left) := by
  rw [items]
  split
  case h_1 failed => simp [more] at failed
  case h_2 closed => simp [more] at closed
  case h_3 opened =>
    obtain rfl := Next.more.inj (Except.ok.inj (more.symm.trans opened))
    split
    case h_1 failed => simp [read] at failed
    case h_2 found =>
      obtain ⟨rfl, rfl⟩ := Prod.mk.inj (Except.ok.inj (read.symm.trans found))
      cases items item false rest <;> rfl

/-- The front of a list of items: the first of them is found. -/
theorem nextItem_spelled {w : Written} {before inside : List Char} (first : Bool)
    (space : IsSpace before) (inner : IsSpace inside) (spelled : Spelled w text)
    (rest : List Char) :
    nextItem first (before ++ (separator first ++ (inside ++ (text ++ rest)))) =
      .ok (.more (text ++ rest)) := by
  obtain ⟨c, tail, rfl, solid, opens⟩ := spelled.exists_cons
  exact nextItem_entry space inner solid opens

/-- The items of an array are read up to its closing bracket, if each of them is accepted. -/
theorem items_listed {ws : List Written} {as : List α} (listed : Listed Spelled ']' first ws text)
    (accepts : List.Forall₂ item.Accepts ws as) (rest : List Char) :
    items item first (text ++ rest) = .ok (as, rest) := by
  induction listed generalizing as with
  | closed space =>
    cases accepts
    rw [List.append_assoc]
    exact items_closed (nextItem_close space rest)
  | @entry first w others before inside text behind space inner spelled more ih =>
    obtain _ | ⟨here, later⟩ := accepts
    have ends := more.endsNumber (by decide) rest
    have found := nextItem_spelled first space inner spelled (behind ++ rest)
    have read := here text spelled _ _ ends (spelled.skipGap_append isSpace_nil _)
    simp only [List.append_assoc]
    rw [items_more found read, ih later]
    rfl

end Items

section Members

variable {σ : Type} {entry : σ → String → Except ReadFault (Reader (σ → σ))} {first : Bool}
  {state : σ} {text rest : List Char}

theorem members_closed (closed : nextMember first text = .ok (.closed rest)) :
    members entry first state text = .ok (state, rest) := by
  rw [members]
  split
  case h_1 failed => simp [closed] at failed
  case h_2 found =>
    obtain rfl := Next.closed.inj (Except.ok.inj (closed.symm.trans found))
    rfl
  case h_3 opened => simp [closed] at opened

theorem members_more {inside behind later : List Char} {key : String} {value : Reader (σ → σ)}
    {update : σ → σ} (more : nextMember first text = .ok (.more inside))
    (named : textBody inside = .ok (key.toList, behind))
    (allowed : entry state key = .ok value) (pointed : colon behind = .ok later)
    (read : value.run later = .ok (update, rest)) :
    members entry first state text = members entry false (update state) rest := by
  rw [members]
  split
  case h_1 failed => simp [more] at failed
  case h_2 closed => simp [more] at closed
  case h_3 opened =>
    obtain rfl := Next.more.inj (Except.ok.inj (more.symm.trans opened))
    split
    case h_1 failed => simp [named] at failed
    case h_2 found =>
      obtain ⟨rfl, rfl⟩ := Prod.mk.inj (Except.ok.inj (named.symm.trans found))
      simp only [String.ofList_toList, allowed]
      split
      case h_1 failed => simp [pointed] at failed
      case h_2 found =>
        obtain rfl := Except.ok.inj (pointed.symm.trans found)
        split
        case h_1 failed => simp [read] at failed
        case h_2 found =>
          obtain ⟨rfl, rfl⟩ := Prod.mk.inj (Except.ok.inj (read.symm.trans found))
          rfl

/-- The front of a list of members: the key of the first of them, its colon, and the
    value behind it. -/
theorem nextMember_labelled {m : String × Written} {before inside : List Char} (first : Bool)
    (space : IsSpace before) (inner : IsSpace inside) (labelled : Labelled Spelled m text)
    (rest : List Char) :
    ∃ body behind later value, SpellsText m.1.toList body ∧ Spelled m.2 value ∧
      nextMember first (before ++ (separator first ++ (inside ++ (text ++ rest)))) =
        .ok (.more (body ++ '"' :: behind)) ∧
      colon behind = .ok later ∧ skipGap later = value ++ rest := by
  obtain @⟨key, w, body, front, back, value, named, gap, aside, spelled⟩ := labelled
  refine ⟨body, front ++ ':' :: (back ++ (value ++ rest)), back ++ (value ++ rest), value, named,
    spelled, ?_, ?_, spelled.skipGap_append aside rest⟩
  · simpa using nextMember_entry space inner
  · rw [colon, skipGap_append gap, skipGap_cons rfl]
    rfl

/-- One member is read, and the reading of the others goes on behind it. -/
theorem members_labelled {m : String × Written} {before inside : List Char}
    {value : Reader (σ → σ)} {update : σ → σ} (space : IsSpace before) (inner : IsSpace inside)
    (labelled : Labelled Spelled m text) (ends : EndsNumber rest)
    (allowed : entry state m.1 = .ok value) (accepts : value.Accepts m.2 update) :
    members entry first state (before ++ (separator first ++ (inside ++ (text ++ rest)))) =
      members entry false (update state) rest := by
  obtain ⟨body, behind, later, valueText, named, spelled, found, pointed, start⟩ :=
    nextMember_labelled first space inner labelled rest
  exact members_more found (named.textBody_append behind) allowed pointed
    (accepts _ spelled later rest ends start)

end Members

/-- A text that holds a document is read, if its reader accepts the document. -/
theorem Written.StandsIn.decode {α : Type} {r : Reader α} {w : Written} {text : String} {a : α}
    (stands : w.StandsIn text) (accepts : r.Accepts w a) : decode r text = .ok a := by
  obtain ⟨front, body, back, found, space, spelled, behind⟩ := stands
  have read : r.run text.toList = .ok (a, back) := by
    refine accepts _ spelled _ back (endsNumber_space behind) ?_
    rw [found]
    exact spelled.skipGap_append space back
  have rest : skipGap back = [] := by
    have skipped := skipGap_append behind []
    rwa [List.append_nil] at skipped
  simp only [Json.decode, read, if_pos rest]

end EmbeddingLatency.Json
