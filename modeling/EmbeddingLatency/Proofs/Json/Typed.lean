import EmbeddingLatency.Proofs.Json.Entries

/-!
# Values of a type

Which documents the readers of texts, truth values, counts, options, lists and names accept, and
what can be said of whatever they read (`Reader.Yields`): a count fits into 64 bits, also inside of
an option or of a record.
-/

set_option autoImplicit false

namespace EmbeddingLatency.Json

open EmbeddingLatency.Decimal (maxWord)

section Accepting

variable {α : Type} {item : Reader α} {w : Written} {a : α}

theorem text_accepts (s : String) : Reader.Accepts text (.text s) s := by
  intro _ spelled
  cases spelled with
  | text spells => exact scalarOf_takes (scalarFrom_text spells) (by rw [String.ofList_toList])

theorem bool_accepts (b : Bool) : Reader.Accepts bool (.bool b) b := by
  intro _ spelled
  cases spelled with
  | yes => exact scalarOf_takes (s := .bool true) (fun _ => rfl) rfl
  | no => exact scalarOf_takes (s := .bool false) (fun _ => rfl) rfl

/-- A number is read from its first digit on. -/
theorem scalarFrom_digit {c : Char} {tail rest : List Char} {n : Numeral} {m : Number}
    (digit : c.isDigit = true) (read : numeral .truncated (c :: tail) = .ok (n, rest))
    (number : n.number? = .ok m) : scalarFrom c tail = .ok (.number m, rest) := by
  unfold scalarFrom
  split
  case h_7 => simp only [digit, or_true, if_true, read, number, Except.map]
  all_goals simp at digit

/-- Digits alone stand for a natural number, as far as 64 bits go. -/
theorem number?_whole {n : Nat} (fits : n ≤ maxWord) :
    Numeral.number? ⟨false, Nat.toDigits 10 n, [], 0, true⟩ = .ok (.natural n) := by
  simp [Numeral.number?, valueOf_toDigits, fits]

theorem nat_accepts {n : Nat} (fits : n ≤ maxWord) : Reader.Accepts nat (.count n) n := by
  intro text spelled input rest ends found
  obtain ⟨c, others, digits, digit⟩ := (isWhole_toDigits n).exists_cons
  have read : numeral .truncated (Nat.toDigits 10 n ++ rest) = _ :=
    numeral_whole (isWhole_toDigits n) ends
  generalize same : Written.count n = w at spelled
  cases spelled with
  | number =>
    obtain rfl := Written.number.inj same
    have number := number?_whole fits
    rw [Decimal.digits, String.toList_ofList, digits, List.cons_append] at found
    rw [digits, List.cons_append] at read
    rw [digits] at number
    simp only [nat, scalarOf, Text.Reader.refine, scalar, found, scalarFrom_digit digit read number]
  | _ => cases same

theorem optional_accepts_null : Reader.Accepts (optional item) .null none := by
  intro _ spelled input rest _ found
  cases spelled with
  | null =>
    have word : "null".toList ++ rest = 'n' :: ("ull".toList ++ rest) := rfl
    rw [word] at found
    simp only [optional, found]
    rfl

/-- The word `null` alone begins with its letter. -/
theorem Spelled.head_ne {text : List Char} (spelled : Spelled w text) (other : w ≠ .null) :
    text.head? ≠ some 'n' := by
  cases spelled with
  | null => exact absurd rfl other
  | number isNumeral =>
    obtain ⟨c, others, text, first⟩ := isNumeral.exists_cons
    rw [text]
    intro letter
    obtain rfl : c = 'n' := by simpa using letter
    simp at first
  | _ => simp

theorem optional_accepts_some (accepts : item.Accepts w a) (other : w ≠ .null) :
    Reader.Accepts (optional item) w (some a) := by
  intro text spelled input rest ends found
  have read :=
    accepts text spelled (text ++ rest) rest ends (spelled.skipGap_append isSpace_nil rest)
  have letter := spelled.head_ne other
  obtain ⟨c, tail, rfl, -, -⟩ := spelled.exists_cons
  simp only [optional, found]
  split
  case h_1 others word => simp_all
  case h_2 => rw [read]; rfl

/-- An option is accepted as it is written, if each value is and none is written as `null`. -/
theorem optional_accepts {write : α → Written} (accepts : ∀ a, item.Accepts (write a) a)
    (other : ∀ a, write a ≠ .null) (value : Option α) :
    Reader.Accepts (optional item) (.ofOption write value) value := by
  cases value with
  | none => exact optional_accepts_null
  | some a => exact optional_accepts_some (accepts a) (other a)

theorem array_accepts {ws : List Written} {as : List α}
    (accepts : List.Forall₂ item.Accepts ws as) :
    Reader.Accepts (array item) (.array ws) as := by
  intro _ spelled input rest _ found
  cases spelled with
  | array listed =>
    have read := items_listed listed accepts rest
    rw [List.cons_append] at found
    simp only [array, found, read]

theorem nameOf_accepts {names : List (String × α)} {s : String}
    (listed : names.find? (·.1 = s) = some (s, a)) : Reader.Accepts (nameOf names) (.text s) a :=
  (text_accepts s).refine (by rw [listed])

theorem oneOf_accepts {names : List (String × α)} {s : String}
    (listed : names.find? (·.1 = s) = some (s, a)) : Reader.Accepts (oneOf names) (.text s) a := by
  intro _ spelled input rest ends found
  have read := nameOf_accepts listed _ spelled
  cases spelled with
  | text spells =>
    have named := read _ rest ends (skipGap_cons rfl _)
    rw [List.cons_append] at found
    simp only [oneOf, found]
    exact named

end Accepting

/-- Whatever the reader reads, `P` holds of it. -/
def Reader.Yields {α : Type} (r : Reader α) (P : α → Prop) : Prop :=
  ∀ text a rest, r.run text = .ok (a, rest) → P a

section Yielding

variable {α β : Type} {P : α → Prop} {Q : β → Prop}

theorem refine_eq_ok {r : Reader α} {f : α → Except ReadFault β} {text rest : List Char} {b : β}
    (read : (Text.Reader.refine r f).run text = .ok (b, rest)) :
    ∃ a, r.run text = .ok (a, rest) ∧ f a = .ok b := by
  simp only [Text.Reader.refine] at read
  split at read
  case h_1 => cases read
  case h_2 a tail found =>
    split at read
    case h_1 => cases read
    case h_2 result changed =>
      obtain ⟨rfl, rfl⟩ := Prod.mk.inj (Except.ok.inj read)
      exact ⟨a, found, changed⟩

theorem Reader.Yields.refine {r : Reader α} {f : α → Except ReadFault β} (yields : r.Yields P)
    (changed : ∀ a b, P a → f a = .ok b → Q b) : Reader.Yields (Text.Reader.refine r f) Q := by
  intro text b rest read
  obtain ⟨a, found, same⟩ := refine_eq_ok read
  exact changed a b (yields text a rest found) same

theorem Reader.Yields.map {r : Reader α} {f : α → β} (yields : r.Yields P)
    (changed : ∀ a, P a → Q (f a)) : Reader.Yields (Text.Reader.map r f) Q :=
  yields.refine fun a _ holds same => Except.ok.inj same ▸ changed a holds

/-- A whole number that is read fits into 64 bits. -/
theorem le_maxWord_of_number? {m : Numeral} {n : Nat} (number : m.number? = .ok (.natural n)) :
    n ≤ maxWord := by
  simp only [Numeral.number?] at number
  split_ifs at number with plain negative fits finite <;> simp at number
  omega

theorem number?_of_scalarFrom {c : Char} {text rest : List Char} {n : Number}
    (read : scalarFrom c text = .ok (.number n, rest)) : ∃ m : Numeral, m.number? = .ok n := by
  unfold scalarFrom at read
  split at read
  case h_7 =>
    split_ifs at read
    split at read
    case h_1 => cases read
    case h_2 m tail _ =>
      obtain ⟨k, number, same⟩ := map_eq_ok read
      obtain rfl : k = n := by simpa using (Prod.mk.inj same).1
      exact ⟨m, number⟩
  case h_5 => cases read
  case h_6 => cases read
  all_goals
    obtain ⟨_, -, other⟩ := map_eq_ok read
    simp at other

theorem scalarOf_eq_ok {f : Scalar → Option α} {text rest : List Char} {a : α}
    (read : (scalarOf f).run text = .ok (a, rest)) :
    ∃ s, scalar.run text = .ok (s, rest) ∧ f s = some a := by
  obtain ⟨s, found, wanted⟩ := refine_eq_ok read
  refine ⟨s, found, ?_⟩
  split at wanted
  case h_1 kind => rw [kind, Except.ok.inj wanted]
  case h_2 => cases wanted

theorem nat_yields : Reader.Yields nat (· ≤ maxWord) := by
  intro text n rest read
  obtain ⟨s, found, wanted⟩ := scalarOf_eq_ok read
  have kind : s = .number (.natural n) := by
    cases s with
    | number m => cases m <;> simp_all
    | _ => simp at wanted
  simp only [kind, scalar] at found
  split at found
  case h_1 => cases found
  case h_2 c tail _ =>
    obtain ⟨m, number⟩ := number?_of_scalarFrom found
    exact le_maxWord_of_number? number

theorem optional_yields {item : Reader α} (yields : item.Yields P) :
    Reader.Yields (optional item) fun value => ∀ a ∈ value, P a := by
  intro text value rest read
  simp only [optional] at read
  split at read
  case h_1 =>
    obtain ⟨_, -, same⟩ := map_eq_ok read
    obtain rfl := (Prod.mk.inj same).1
    simp
  case h_2 =>
    obtain ⟨⟨a, tail⟩, found, same⟩ := map_eq_ok read
    obtain rfl := (Prod.mk.inj same).1
    simpa using yields _ _ _ found

end Yielding

end EmbeddingLatency.Json
