/-!
# White space and lines

The twenty-five white space characters of Unicode, trimming, and the three ways in which texts are
cut up here: into lines (a carriage return in front of a line feed belongs to the line end), into
words, and at a separator.
-/

set_option autoImplicit false

namespace EmbeddingLatency.Text

/-- The ranges of the white space characters. -/
def blankRanges : List (Nat × Nat) :=
  [(0x9, 0xD), (0x20, 0x20), (0x85, 0x85), (0xA0, 0xA0), (0x1680, 0x1680), (0x2000, 0x200A),
   (0x2028, 0x2029), (0x202F, 0x202F), (0x205F, 0x205F), (0x3000, 0x3000)]

/-- Is `n` in one of the ranges? -/
def inRanges (ranges : List (Nat × Nat)) (n : Nat) : Bool :=
  ranges.any fun r => r.1 ≤ n && n ≤ r.2

/-- Is the character white space? -/
def isBlank (c : Char) : Bool := inRanges blankRanges c.toNat

example : (blankRanges.map fun r => r.2 + 1 - r.1).sum = 25 := by decide

/-- The text without the white space at its end. -/
def trimRight (text : List Char) : List Char := (text.reverse.dropWhile isBlank).reverse

/-- The text without the white space at both ends. -/
def trim (text : List Char) : List Char := trimRight (text.dropWhile isBlank)

/-- The text without the white space at both ends. -/
def trimmed (text : String) : String := String.ofList (trim text.toList)

/-- The parts between the characters that `isBreak` accepts, empty ones included. -/
def splitBy (isBreak : Char → Bool) : List Char → List (List Char)
  | [] => [[]]
  | c :: rest =>
    match splitBy isBreak rest with
    | [] => if isBreak c then [[], []] else [[c]]
    | part :: parts => if isBreak c then [] :: part :: parts else (c :: part) :: parts

theorem splitBy_ne_nil (isBreak : Char → Bool) (text : List Char) : splitBy isBreak text ≠ [] := by
  induction text with
  | nil => simp [splitBy]
  | cons c rest ih =>
    cases h : splitBy isBreak rest with
    | nil => exact absurd h ih
    | cons part parts => by_cases hc : isBreak c <;> simp [splitBy, h, hc]

/-- A text without a break is its only part. -/
theorem splitBy_of_free {isBreak : Char → Bool} {text : List Char}
    (free : ∀ c ∈ text, isBreak c = false) : splitBy isBreak text = [text] := by
  induction text with
  | nil => rfl
  | cons c text ih =>
    have here := free c List.mem_cons_self
    have rest := ih fun d member => free d (List.mem_cons_of_mem c member)
    simp [splitBy, rest, here]

/-- A break ends the parts in front of it. -/
theorem splitBy_append {isBreak : Char → Bool} {mark : Char} (marked : isBreak mark = true)
    (before after : List Char) :
    splitBy isBreak (before ++ mark :: after) =
      splitBy isBreak before ++ splitBy isBreak after := by
  induction before with
  | nil =>
    obtain ⟨part, parts, split⟩ := List.exists_cons_of_ne_nil (splitBy_ne_nil isBreak after)
    simp [splitBy, split, marked]
  | cons c before ih =>
    obtain ⟨part, parts, split⟩ := List.exists_cons_of_ne_nil (splitBy_ne_nil isBreak before)
    rw [List.cons_append, splitBy, ih, splitBy, split]
    cases isBreak c <;> rfl

/-- A text has no break, or a last one. -/
theorem free_or_exists_last (isBreak : Char → Bool) (text : List Char) :
    (∀ c ∈ text, isBreak c = false) ∨ ∃ before mark after, isBreak mark = true ∧
      (∀ c ∈ after, isBreak c = false) ∧ text = before ++ mark :: after := by
  induction text with
  | nil => exact .inl (by simp)
  | cons c text ih =>
    rcases ih with free | ⟨before, mark, after, marked, free, rfl⟩
    · cases here : isBreak c with
      | true => exact .inr ⟨[], c, text, here, free, rfl⟩
      | false =>
        refine .inl fun d member => ?_
        rcases List.mem_cons.mp member with rfl | later
        · exact here
        · exact free d later
    · exact .inr ⟨c :: before, mark, after, marked, free, rfl⟩

/-- The words of a text: its parts between white space, without the empty ones. -/
def words (text : List Char) : List (List Char) := (splitBy isBlank text).filter (· ≠ [])

/-- One line without the carriage return at its end. -/
def chomp (line : List Char) : List Char :=
  if line.getLast? = some '\r' then line.dropLast else line

/-- The lines of a text. A line feed ends a line, so a text that ends with one has no empty last
    line; only a carriage return in front of a line feed is taken off. -/
def lines (text : List Char) : List (List Char) :=
  let parts := splitBy (· = '\n') text
  match parts.getLast? with
  | some [] => parts.dropLast.map chomp
  | some last => parts.dropLast.map chomp ++ [last]
  | none => []

/-- What stands before and after the first occurrence of `mark`. -/
def splitOnce (mark : List Char) : List Char → Option (List Char × List Char)
  | [] => if mark = [] then some ([], []) else none
  | c :: rest =>
    if mark.isPrefixOf (c :: rest) then some ([], (c :: rest).drop mark.length)
    else (splitOnce mark rest).map fun (before, after) => (c :: before, after)

/-- A text is split in front of and behind the first occurrence of a character. -/
theorem splitOnce_eq_some_iff {mark : Char} {text before after : List Char} :
    splitOnce [mark] text = some (before, after) ↔
      text = before ++ mark :: after ∧ mark ∉ before := by
  induction text generalizing before with
  | nil => simp [splitOnce]
  | cons c rest ih =>
    by_cases found : mark = c
    · subst found
      have here : splitOnce [mark] (mark :: rest) = some ([], rest) := by simp [splitOnce]
      rw [here]
      cases before with
      | nil => simp [eq_comm]
      | cons d before =>
        constructor
        · intro absurd
          simp at absurd
        · rintro ⟨whole, first⟩
          exact absurd (List.cons.inj whole).1 fun same => first (same ▸ List.mem_cons_self)
    · have apart : ¬[mark].isPrefixOf (c :: rest) = true := by simpa [List.isPrefixOf] using found
      rw [splitOnce, if_neg apart]
      cases before with
      | nil => simp [Ne.symm found]
      | cons d before =>
        rw [Option.map_eq_some_iff]
        constructor
        · rintro ⟨⟨front, back⟩, split, same⟩
          simp only [Prod.mk.injEq, List.cons.injEq] at same
          obtain ⟨⟨rfl, rfl⟩, rfl⟩ := same
          obtain ⟨rfl, first⟩ := ih.mp split
          exact ⟨rfl, by simp [found, first]⟩
        · rintro ⟨whole, first⟩
          obtain ⟨rfl, rfl⟩ := List.cons.inj whole
          exact ⟨(before, after),
            ih.mpr ⟨rfl, fun later => first (List.mem_cons_of_mem _ later)⟩, rfl⟩

/-- A text is left whole where a character does not occur in it. -/
theorem splitOnce_eq_none_iff {mark : Char} {text : List Char} :
    splitOnce [mark] text = none ↔ mark ∉ text := by
  constructor
  · intro whole member
    obtain ⟨before, after, split⟩ := List.eq_append_cons_of_mem member
    simp [splitOnce_eq_some_iff.mpr split] at whole
  · intro free
    cases split : splitOnce [mark] text with
    | none => rfl
    | some parts =>
      obtain ⟨whole, _⟩ := splitOnce_eq_some_iff.mp split
      exact absurd (whole ▸ List.mem_append_right _ List.mem_cons_self) free

end EmbeddingLatency.Text
