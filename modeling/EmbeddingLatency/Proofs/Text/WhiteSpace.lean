import EmbeddingLatency.Text.Blank
import Mathlib.Data.List.DropRight
import Mathlib.Data.List.TakeWhile

/-!
# White space around texts

White space around a text (`Surrounds`) is taken off by trimming, and it bears neither on the parts
between marks, once these are trimmed, nor on the first word, nor on where a mark that begins and
ends with other characters is first mentioned. What is read of a text may therefore be said of the
text as it stands. In particular the first line of a trimmed text is the first line of the text that
is not blank (`lines_trim`).
-/

set_option autoImplicit false

namespace EmbeddingLatency.Text

/-- Only white space. -/
def Blank (text : List Char) : Prop := ∀ c ∈ text, isBlank c = true

instance (text : List Char) : Decidable (Blank text) := List.decidableBAll _ text

/-- A text with white space around another one. -/
def Surrounds (outer inner : List Char) : Prop :=
  ∃ front back, outer = front ++ (inner ++ back) ∧ Blank front ∧ Blank back

section Trimming

variable {outer inner front back text : List Char}

theorem blank_nil : Blank [] := by decide

theorem Blank.append (first : Blank front) (second : Blank back) : Blank (front ++ back) :=
  List.forall_mem_append.mpr ⟨first, second⟩

theorem exists_trimRight (text : List Char) :
    ∃ blanks, text = trimRight text ++ blanks ∧ (∀ c ∈ blanks, isBlank c = true) ∧
      ∀ c, (trimRight text).getLast? = some c → isBlank c = false := by
  refine ⟨(text.reverse.takeWhile isBlank).reverse, ?_, ?_, ?_⟩
  · rw [trimRight, ← List.reverse_append, List.takeWhile_append_dropWhile, List.reverse_reverse]
  · intro c member
    exact List.mem_takeWhile_imp (List.mem_reverse.mp member)
  · intro c last
    rw [trimRight, List.getLast?_reverse] at last
    exact by simpa [last] using List.head?_dropWhile_not isBlank text.reverse

/-- What is no white space stays, and so does all that stands in front of it. -/
theorem trimRight_append_cons {mark : Char} (stays : isBlank mark = false)
    (before after : List Char) :
    trimRight (before ++ mark :: after) = before ++ mark :: trimRight after := by
  unfold trimRight
  rw [List.reverse_append, List.reverse_cons, List.append_assoc, List.dropWhile_append]
  split
  case isTrue empty =>
    rw [List.isEmpty_iff.mp empty]
    simp [stays]
  case isFalse => simp

theorem trimRight_append_blank (text : List Char) (blank : Blank back) :
    trimRight (text ++ back) = trimRight text := by
  rw [trimRight, List.reverse_append,
    List.dropWhile_append_of_pos fun c member => blank c (List.mem_reverse.mp member), trimRight]

/-- A text that is not blank has a first character that is no white space. -/
theorem exists_first_filled (filled : ¬Blank text) :
    ∃ lead mark tail, text = lead ++ mark :: tail ∧ Blank lead ∧ isBlank mark = false := by
  cases rest : text.dropWhile isBlank with
  | nil => exact absurd (List.dropWhile_eq_nil_iff.mp rest) filled
  | cons mark tail =>
    refine ⟨text.takeWhile isBlank, mark, tail, ?_, fun c => List.mem_takeWhile_imp, ?_⟩
    · rw [← rest, List.takeWhile_append_dropWhile]
    · simpa [rest] using List.head?_dropWhile_not isBlank text

theorem dropWhile_blank {mark : Char} {tail : List Char} (blank : Blank front)
    (stays : isBlank mark = false) :
    (front ++ mark :: tail).dropWhile isBlank = mark :: tail := by
  rw [List.dropWhile_append_of_pos blank, List.dropWhile_cons_of_neg (by simp [stays])]

theorem trim_eq_nil_iff : trim text = [] ↔ Blank text := by
  constructor
  · intro empty
    by_contra filled
    obtain ⟨lead, mark, tail, rfl, blank, stays⟩ := exists_first_filled filled
    rw [trim, dropWhile_blank blank stays] at empty
    exact List.cons_ne_nil _ _ ((trimRight_append_cons stays [] tail).symm.trans empty)
  · intro blank
    rw [trim, List.dropWhile_eq_nil_iff.mpr blank]
    rfl

theorem surrounds_trim (text : List Char) : Surrounds text (trim text) := by
  obtain ⟨blanks, split, blank, -⟩ := exists_trimRight (text.dropWhile isBlank)
  refine ⟨text.takeWhile isBlank, blanks, ?_, fun c => List.mem_takeWhile_imp, blank⟩
  rw [trim, ← split, List.takeWhile_append_dropWhile]

/-- White space around a text is trimmed with it. -/
theorem Surrounds.trim_eq (around : Surrounds outer inner) : trim outer = trim inner := by
  obtain ⟨front, back, rfl, blankFront, blankBack⟩ := around
  rw [trim, trim, List.dropWhile_append_of_pos blankFront, List.dropWhile_append]
  split
  case isTrue empty =>
    rw [List.isEmpty_iff.mp empty, List.dropWhile_eq_nil_iff.mpr blankBack]
  case isFalse => exact trimRight_append_blank _ blankBack

end Trimming

section Parts

variable {isBreak : Char → Bool} {outer inner front back text line : List Char} {mark : Char}
  {parts : List (List Char)}

theorem splitBy_append_front (free : ∀ c ∈ front, isBreak c = false) (text : List Char) :
    ∃ part more, splitBy isBreak text = part :: more ∧
      splitBy isBreak (front ++ text) = (front ++ part) :: more := by
  induction front with
  | nil =>
    obtain ⟨part, more, split⟩ := List.exists_cons_of_ne_nil (splitBy_ne_nil isBreak text)
    exact ⟨part, more, split, split⟩
  | cons c front ih =>
    obtain ⟨here, later⟩ := List.forall_mem_cons.mp free
    obtain ⟨part, more, split, whole⟩ := ih later
    exact ⟨part, more, split, by simp [splitBy, whole, here]⟩

theorem splitBy_append_back (free : ∀ c ∈ back, isBreak c = false) (text : List Char) :
    ∃ before last, splitBy isBreak text = before ++ [last] ∧
      splitBy isBreak (text ++ back) = before ++ [last ++ back] := by
  rcases free_or_exists_last isBreak text with whole | ⟨before, mark, after, marked, whole, rfl⟩
  · exact ⟨[], text, splitBy_of_free whole,
      splitBy_of_free (List.forall_mem_append.mpr ⟨whole, free⟩)⟩
  · refine ⟨splitBy isBreak before, after, ?_, ?_⟩
    · rw [splitBy_append marked, splitBy_of_free whole]
    · rw [List.append_assoc, List.cons_append, splitBy_append marked,
        splitBy_of_free (List.forall_mem_append.mpr ⟨whole, free⟩)]

/-- White space around a text is white space around its first and its last part. -/
theorem Surrounds.map_trim_splitBy (around : Surrounds outer inner)
    (apart : ∀ c, isBlank c = true → isBreak c = false) :
    (splitBy isBreak outer).map trim = (splitBy isBreak inner).map trim := by
  obtain ⟨front, back, rfl, blankFront, blankBack⟩ := around
  obtain ⟨part, more, split, whole⟩ :=
    splitBy_append_front (fun c member => apart c (blankFront c member)) (inner ++ back)
  obtain ⟨before, last, split', whole'⟩ :=
    splitBy_append_back (fun c member => apart c (blankBack c member)) inner
  have atFront : trim (front ++ part) = trim part :=
    Surrounds.trim_eq ⟨front, [], by simp, blankFront, blank_nil⟩
  have atBack : trim (last ++ back) = trim last :=
    Surrounds.trim_eq ⟨[], back, rfl, blank_nil, blankBack⟩
  calc (splitBy isBreak (front ++ (inner ++ back))).map trim
      = (splitBy isBreak (inner ++ back)).map trim := by
        rw [whole, split, List.map_cons, List.map_cons, atFront]
    _ = (splitBy isBreak inner).map trim := by
        rw [whole', split', List.map_append, List.map_append, List.map_singleton,
          List.map_singleton, atBack]

theorem splitBy_of_notMem (free : mark ∉ text) : splitBy (· = mark) text = [text] :=
  splitBy_of_free fun _ member => decide_eq_false fun same => free (same ▸ member)

/-- A text is cut into some parts by a mark: they stand in it with a mark between two of them. -/
structure CutAt (mark : Char) (text : List Char) (parts : List (List Char)) : Prop where
  some : parts ≠ []
  free : ∀ part ∈ parts, mark ∉ part
  whole : text = [mark].intercalate parts

theorem CutAt.splitBy_eq (cut : CutAt mark text parts) : splitBy (· = mark) text = parts := by
  obtain ⟨some, free, rfl⟩ := cut
  induction parts with
  | nil => exact absurd rfl some
  | cons part more ih =>
    obtain ⟨here, later⟩ := List.forall_mem_cons.mp free
    cases more with
    | nil => rw [List.intercalate_singleton, splitBy_of_notMem here]
    | cons next others =>
      rw [List.intercalate_cons_cons, List.append_assoc, List.singleton_append,
        splitBy_append (decide_eq_true rfl), splitBy_of_notMem here,
        ih (List.cons_ne_nil next others) later]
      rfl

theorem cutAt_splitBy (mark : Char) (text : List Char) :
    CutAt mark text (splitBy (· = mark) text) := by
  induction text with
  | nil => exact ⟨by simp [splitBy], by simp [splitBy], by simp [splitBy]⟩
  | cons c text ih =>
    obtain ⟨part, more, split⟩ := List.exists_cons_of_ne_nil (splitBy_ne_nil (· = mark) text)
    rw [split] at ih
    have here := ih.free part List.mem_cons_self
    have later : ∀ other ∈ more, mark ∉ other := fun other member =>
      ih.free other (List.mem_cons_of_mem _ member)
    by_cases marked : c = mark
    · have parts : splitBy (· = mark) (c :: text) = [] :: part :: more := by
        simp [splitBy, split, marked]
      rw [parts]
      refine ⟨List.cons_ne_nil _ _, by simpa using ⟨here, later⟩, ?_⟩
      rw [List.intercalate_cons_cons, ← ih.whole, marked]
      rfl
    · have parts : splitBy (· = mark) (c :: text) = (c :: part) :: more := by
        simp [splitBy, split, marked]
      rw [parts]
      refine ⟨List.cons_ne_nil _ _, by simpa [Ne.symm marked] using ⟨here, later⟩, ?_⟩
      rw [ih.whole]
      cases more with
      | nil => rfl
      | cons next others => rfl

end Parts

section Lines

variable {text line front : List Char}

/-- A line of a text without its end, the first one that is not blank. -/
def FirstLine (text line : List Char) : Prop :=
  ∃ before after, text = before ++ (line ++ after) ∧ Blank before ∧ ¬Blank line ∧ '\n' ∉ line ∧
    (before = [] ∨ before.getLast? = some '\n') ∧ (after = [] ∨ after.head? = some '\n')

/-- A text that is not blank has a line that is not. -/
theorem exists_firstLine (filled : ¬Blank text) : ∃ line, FirstLine text line := by
  obtain ⟨lead, mark, tail, rfl, blank, stays⟩ := exists_first_filled filled
  have notEnd : mark ≠ '\n' := by
    rintro rfl
    exact absurd stays (by decide)
  -- The line goes back to the last line end in front of the mark and on to the first one behind it.
  obtain ⟨before, start, rfl, ended, freeStart⟩ : ∃ before start, lead = before ++ start ∧
      (before = [] ∨ before.getLast? = some '\n') ∧ '\n' ∉ start := by
    rcases free_or_exists_last (· = '\n') lead with free | ⟨before, c, start, isEnd, free, rfl⟩
    · exact ⟨[], lead, rfl, .inl rfl, fun member => by simpa using free _ member⟩
    · obtain rfl : c = '\n' := of_decide_eq_true isEnd
      exact ⟨before ++ ['\n'], start, by simp, .inr (by simp),
        fun member => by simpa using free _ member⟩
  have goesOn := List.head?_dropWhile_not (· ≠ '\n') tail
  refine ⟨start ++ mark :: tail.takeWhile (· ≠ '\n'), before, tail.dropWhile (· ≠ '\n'), ?_,
    fun c member => blank c (List.mem_append_left _ member), ?_, ?_, ended, ?_⟩
  · simp [List.takeWhile_append_dropWhile]
  · intro allBlank
    have := allBlank mark (by simp)
    simp [stays] at this
  · rw [List.mem_append, List.mem_cons]
    rintro (inStart | same | inTail)
    · exact freeStart inStart
    · exact notEnd same.symm
    · simpa using List.mem_takeWhile_imp inTail
  · cases rest : tail.dropWhile (· ≠ '\n') with
    | nil => exact .inl rfl
    | cons c more =>
      rw [rest] at goesOn
      exact .inr (by simpa using goesOn)

theorem lines_of_free (free : '\n' ∉ text) (some : text ≠ []) : lines text = [text] := by
  rw [lines, splitBy_of_notMem free]
  cases text with
  | nil => exact absurd rfl some
  | cons c rest => rfl

/-- A line feed ends the line in front of it. -/
theorem lines_append (free : '\n' ∉ front) (text : List Char) :
    ∃ later, lines (front ++ '\n' :: text) = chomp front :: later := by
  have split : splitBy (· = '\n') (front ++ '\n' :: text) = front :: splitBy (· = '\n') text := by
    rw [splitBy_append (by decide), splitBy_of_notMem free]
    rfl
  obtain ⟨part, parts, some⟩ := List.exists_cons_of_ne_nil (splitBy_ne_nil (· = '\n') text)
  rw [lines, split, some]
  split
  case h_1 => exact ⟨_, rfl⟩
  case h_2 => exact ⟨_, rfl⟩
  case h_3 none => simp at none

theorem surrounds_chomp (line : List Char) : Surrounds line (chomp line) := by
  rw [chomp]
  split_ifs with returned
  · refine ⟨[], ['\r'], ?_, blank_nil, by decide⟩
    obtain ⟨front, rfl⟩ := List.getLast?_eq_some_iff.mp returned
    simp
  · exact ⟨[], [], by simp, blank_nil, blank_nil⟩

/-- The first line of a trimmed text is the first line that is not blank, less white
    space around it. -/
theorem lines_trim (first : FirstLine text line) :
    ∃ inner later, lines (trim text) = inner :: later ∧ Surrounds line inner := by
  obtain ⟨before, after, rfl, blank, filled, free, -, ends⟩ := first
  obtain ⟨lead, mark, tail, rfl, blankLead, stays⟩ := exists_first_filled filled
  have freeInner : '\n' ∉ mark :: tail := fun member => free (List.mem_append_right _ member)
  have start : (before ++ ((lead ++ mark :: tail) ++ after)).dropWhile isBlank =
      mark :: tail ++ after := by
    have dropped :
        (before ++ lead ++ mark :: (tail ++ after)).dropWhile isBlank = mark :: (tail ++ after) :=
      dropWhile_blank (blank.append blankLead) stays
    simpa using dropped
  rw [trim, start]
  by_cases nothing : Blank after
  · -- Nothing else stands behind the line, so it loses the white space at its end.
    rw [trimRight_append_blank _ nothing]
    obtain ⟨blanks, split, blank', -⟩ := exists_trimRight (mark :: tail)
    have some : trimRight (mark :: tail) ≠ [] := by
      rw [show mark :: tail = [] ++ mark :: tail from rfl, trimRight_append_cons stays]
      exact List.cons_ne_nil _ _
    have free' : '\n' ∉ trimRight (mark :: tail) := fun member =>
      freeInner (split ▸ List.mem_append_left _ member)
    exact ⟨_, [], lines_of_free free' some, lead, blanks, by rw [← split], blankLead, blank'⟩
  · obtain ⟨rest, rfl⟩ : ∃ rest, after = '\n' :: rest := by
      rcases ends with rfl | isEnd
      · exact absurd blank_nil nothing
      · exact List.head?_eq_some_iff.mp isEnd
    have filledRest : ¬Blank rest := fun blankRest =>
      nothing (List.forall_mem_cons.mpr ⟨by decide, blankRest⟩)
    obtain ⟨gap, next, others, rfl, -, stays'⟩ := exists_first_filled filledRest
    have kept : trimRight (mark :: tail ++ '\n' :: (gap ++ next :: others)) =
        mark :: tail ++ '\n' :: (gap ++ next :: trimRight others) := by
      have := trimRight_append_cons stays' (mark :: tail ++ '\n' :: gap) others
      simpa using this
    obtain ⟨later, found⟩ := lines_append freeInner (gap ++ next :: trimRight others)
    obtain ⟨front, back, split, blankFront, blankBack⟩ := surrounds_chomp (mark :: tail)
    rw [kept]
    refine ⟨_, later, found, lead ++ front, back, ?_, blankLead.append blankFront, blankBack⟩
    rw [List.append_assoc, ← split]

end Lines

end EmbeddingLatency.Text
