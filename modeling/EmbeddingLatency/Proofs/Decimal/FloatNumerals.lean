import EmbeddingLatency.Proofs.Json.Tokens
import Mathlib.Data.List.TakeWhile
import Mathlib.Tactic.SplitIfs

/-!
# Which texts are floating-point numerals

A floating-point numeral is read from a complete text. The texts that are read are described by a
grammar (`IsFloat`): a sign, and then a word or digits with a point and an exponent. The parts of a
numeral are read one after the other, each as far as it goes, so a text is read exactly if it is put
together from such parts (`float?_isSome_iff`).
-/

set_option autoImplicit false

namespace EmbeddingLatency.Decimal

open EmbeddingLatency.Json (IsDigits IsPower span_digits)

/-- Digits with at most one point, which has a digit on one side of it at least. -/
inductive IsSignificand : List Char → Prop
  | whole {ds : List Char} : IsDigits ds → IsSignificand ds
  | pointed {front back : List Char} :
      IsDigits (front ++ back) → IsSignificand (front ++ '.' :: back)

/-- A significand, with an exponent or without. -/
def IsDecimal (text : List Char) : Prop :=
  ∃ significand power, text = significand ++ power ∧ IsSignificand significand ∧ IsPower power

/-- Infinity or not-a-number, in capital or small letters. -/
def IsSpecial (text : List Char) : Prop :=
  String.ofList (text.map Char.toLower) ∈ ["inf", "infinity", "nan"]

/-- The floating-point numerals. -/
def IsFloat (text : List Char) : Prop :=
  ∃ sign ∈ [[], ['+'], ['-']], ∃ magnitude, text = sign ++ magnitude ∧
    (IsSpecial magnitude ∨ IsDecimal magnitude)

variable {text front back rest : List Char}

theorem exponent?_isSome_iff : (exponent? text).isSome = true ↔ IsPower text := by
  cases text with
  | nil => exact iff_of_true rfl (.inl rfl)
  | cons mark rest =>
    have read : (exponent? (mark :: rest)).isSome = true ↔
        mark ∈ ['e', 'E'] ∧ IsDigits (splitSign rest).2 := by
      rw [exponent?, Option.isSome_ite]
      simp [IsDigits]
    rw [read]
    constructor
    · rintro ⟨marked, digits⟩
      obtain ⟨sign, signed, split⟩ := exists_sign rest
      exact .inr ⟨mark, sign, _, congrArg _ split, marked, signed, digits⟩
    · rintro (none | ⟨mark', sign, ds, same, marked, signed, digits⟩)
      · exact absurd none (List.cons_ne_nil _ _)
      · obtain ⟨rfl, rfl⟩ := List.cons.inj same
        have unsigned : ∀ c ∈ ds.head?, c ≠ '+' ∧ c ≠ '-' := by simpa using digits.unsigned []
        rw [splitSign_append signed unsigned]
        exact ⟨marked, digits⟩

/-- An exponent goes on with no digit and no point. -/
theorem ends_of_isPower (power : IsPower rest) :
    ∀ c ∈ rest.head?, c.isDigit = false ∧ c ≠ '.' := by
  have nothing : Json.EndsNumber [] := nofun
  simpa using nothing.append_power power

theorem decimal?_isSome_whole (digits : ∀ c ∈ front, c.isDigit = true)
    (ends : ∀ c ∈ rest.head?, c.isDigit = false ∧ c ≠ '.') :
    (decimal? (front ++ rest)).isSome = true ↔ front ≠ [] ∧ (exponent? rest).isSome = true := by
  obtain ⟨taken, left⟩ := span_digits digits fun c member => (ends c member).1
  unfold decimal?
  simp only [taken, left]
  split
  case h_1 tail => exact absurd rfl (ends '.' rfl).2
  case h_2 => by_cases none : front = [] <;> simp [none]

theorem decimal?_isSome_pointed (digits : ∀ c ∈ front, c.isDigit = true)
    (digits' : ∀ c ∈ back, c.isDigit = true) (ends : ∀ c ∈ rest.head?, c.isDigit = false) :
    (decimal? (front ++ '.' :: (back ++ rest))).isSome = true ↔
      front ++ back ≠ [] ∧ (exponent? rest).isSome = true := by
  have point : ∀ c ∈ ('.' :: (back ++ rest)).head?, c.isDigit = false := by simp
  obtain ⟨taken, left⟩ := span_digits digits point
  obtain ⟨taken', left'⟩ := span_digits digits' ends
  rw [decimal?, taken, left]
  simp only [taken', left']
  by_cases none : front ++ back = []
  · simp [List.append_eq_nil_iff.mp none]
  · have none' : ¬(front = [] ∧ back = []) := fun both => none (List.append_eq_nil_iff.mpr both)
    simp [none']

/-- Every text has digits in front, and behind them something else. -/
theorem exists_digits (text : List Char) :
    ∃ front rest, text = front ++ rest ∧ (∀ c ∈ front, c.isDigit = true) ∧
      ∀ c ∈ rest.head?, c.isDigit = false := by
  refine ⟨text.takeWhile Char.isDigit, text.dropWhile Char.isDigit,
    List.takeWhile_append_dropWhile.symm, fun c => List.mem_takeWhile_imp, fun c next => ?_⟩
  simpa [Option.mem_def.mp next] using List.head?_dropWhile_not Char.isDigit text

theorem decimal?_isSome_iff : (decimal? text).isSome = true ↔ IsDecimal text := by
  constructor
  · intro read
    obtain ⟨front, rest, rfl, digits, ends⟩ := exists_digits text
    by_cases pointed : rest.head? = some '.'
    · obtain ⟨tail, rfl⟩ := List.head?_eq_some_iff.mp pointed
      obtain ⟨back, rest, rfl, digits', ends'⟩ := exists_digits tail
      obtain ⟨some, power⟩ := (decimal?_isSome_pointed digits digits' ends').mp read
      exact ⟨front ++ '.' :: back, rest, by simp,
        .pointed ⟨some, List.forall_mem_append.mpr ⟨digits, digits'⟩⟩,
          exponent?_isSome_iff.mp power⟩
    · have ends' : ∀ c ∈ rest.head?, c.isDigit = false ∧ c ≠ '.' := fun c next =>
        ⟨ends c next, by rintro rfl; exact pointed next⟩
      obtain ⟨some, power⟩ := (decimal?_isSome_whole digits ends').mp read
      exact ⟨front, rest, rfl, .whole ⟨some, digits⟩, exponent?_isSome_iff.mp power⟩
  · rintro ⟨significand, power, rfl, isSignificand, isPower⟩
    have ends := ends_of_isPower isPower
    have read := exponent?_isSome_iff.mpr isPower
    cases isSignificand with
    | whole digits => exact (decimal?_isSome_whole digits.2 ends).mpr ⟨digits.1, read⟩
    | @pointed front back digits =>
      obtain ⟨inFront, behind⟩ := List.forall_mem_append.mp digits.2
      rw [List.append_assoc, List.cons_append]
      exact (decimal?_isSome_pointed inFront behind fun c next => (ends c next).1).mpr
        ⟨digits.1, read⟩

/-- What is behind the sign of a numeral begins with no sign. -/
theorem unsigned_magnitude (magnitude : IsSpecial text ∨ IsDecimal text) :
    ∀ c ∈ text.head?, c ≠ '+' ∧ c ≠ '-' := by
  rcases magnitude with special | ⟨significand, power, rfl, isSignificand, -⟩
  · have heads : ∀ word ∈ ["inf", "infinity", "nan"], word.toList.head? ∈ [some 'i', some 'n'] := by
      decide
    intro c first
    have lower : c.toLower ∈ ['i', 'n'] := by simpa [Option.mem_def.mp first] using heads _ special
    constructor <;> rintro rfl <;> exact absurd lower (by decide)
  · cases isSignificand with
    | whole digits => exact digits.unsigned power
    | @pointed front back digits =>
      cases front with
      | nil =>
        intro c first
        obtain rfl : '.' = c := by simpa using first
        decide
      | cons d front =>
        have digits' : IsDigits (d :: front) :=
          ⟨List.cons_ne_nil _ _, fun c member => digits.2 c (List.mem_append_left _ member)⟩
        simpa using digits'.unsigned []

theorem float?_isSome_iff : (float? text).isSome = true ↔ IsFloat text := by
  have read : (float? text).isSome = true ↔
      IsSpecial (splitSign text).2 ∨ IsDecimal (splitSign text).2 := by
    rw [IsSpecial, ← decimal?_isSome_iff]
    simp only [float?, List.mem_cons, List.not_mem_nil, or_false, ← or_assoc]
    generalize String.ofList ((splitSign text).2.map Char.toLower) = word
    by_cases infinite : word = "inf" ∨ word = "infinity"
    · rw [if_pos infinite]
      exact iff_of_true rfl (.inl (.inl infinite))
    · rw [if_neg infinite]
      by_cases nan : word = "nan"
      · rw [if_pos nan]
        exact iff_of_true rfl (.inl (.inr nan))
      · rw [if_neg nan, Option.isSome_map, or_iff_right (not_or_intro infinite nan)]
  rw [read]
  constructor
  · intro magnitude
    obtain ⟨sign, signed, split⟩ := exists_sign text
    exact ⟨sign, signed, _, split, magnitude⟩
  · rintro ⟨sign, signed, magnitude, rfl, isMagnitude⟩
    rwa [splitSign_append signed (unsigned_magnitude isMagnitude)]

example : (∀ text ∈ ["+.5e-3", "-INF", "1.", "007E+1"], IsFloat text.toList) ∧
    ∀ text ∈ ["", ".", "+", "1e", "--1", "0x10", "[N/A]"], ¬IsFloat text.toList := by
  simp only [← float?_isSome_iff]
  decide +kernel

end EmbeddingLatency.Decimal
