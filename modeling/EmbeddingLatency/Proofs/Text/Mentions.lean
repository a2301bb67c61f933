import EmbeddingLatency.Proofs.Text.WhiteSpace

/-!
# First words and first mentions

The first word of a text has white space or nothing on both sides of it (`head?_words_iff`), and a
text is split at the first mention of a mark (`splitOnce_eq_some_iff_mention`). White space around a
text changes neither, because it is no part of a word, and none of a mark that begins and ends with
other characters (`firstMention_surrounded_iff`).
-/

set_option autoImplicit false

namespace EmbeddingLatency.Text

section Words

variable {text word gap back : List Char}

/-- **Words are split at white space.** All that is said of words follows from this. -/
theorem words_append_cons {c : Char} (blank : isBlank c = true) (before after : List Char) :
    words (before ++ c :: after) = words before ++ words after := by
  rw [words, splitBy_append blank, List.filter_append]
  rfl

theorem words_blank_append (blank : Blank gap) (text : List Char) :
    words (gap ++ text) = words text := by
  induction gap with
  | nil => rfl
  | cons c gap ih =>
    obtain ⟨here, later⟩ := List.forall_mem_cons.mp blank
    rw [show c :: gap ++ text = [] ++ c :: (gap ++ text) from rfl, words_append_cons here, ih later]
    rfl

theorem words_of_blank (blank : Blank text) : words text = [] := by
  rw [← List.append_nil text, words_blank_append blank]
  rfl

theorem words_append_blank (text : List Char) (blank : Blank back) :
    words (text ++ back) = words text := by
  cases back with
  | nil => rw [List.append_nil]
  | cons c back =>
    obtain ⟨here, later⟩ := List.forall_mem_cons.mp blank
    rw [words_append_cons here, words_of_blank later, List.append_nil]

theorem words_of_filled (some : word ≠ []) (filled : ∀ c ∈ word, isBlank c = false) :
    words word = [word] := by
  rw [words, splitBy_of_free filled, List.filter_cons_of_pos (by simpa using some), List.filter_nil]

/-- A word with white space in front of it, and none in it, up to the next white space. -/
def FirstWord (text word : List Char) : Prop :=
  ∃ gap after, text = gap ++ (word ++ after) ∧ Blank gap ∧ word ≠ [] ∧
    (∀ c ∈ word, isBlank c = false) ∧ ∀ c ∈ after.head?, isBlank c = true

theorem FirstWord.head?_words (first : FirstWord text word) : (words text).head? = some word := by
  obtain ⟨gap, after, rfl, blank, some, filled, ends⟩ := first
  rw [words_blank_append blank]
  cases after with
  | nil => rw [List.append_nil, words_of_filled some filled, List.head?_cons]
  | cons c after =>
    rw [words_append_cons (ends c rfl), words_of_filled some filled, List.singleton_append,
      List.head?_cons]

theorem exists_firstWord (filled : ¬Blank text) : ∃ word, FirstWord text word := by
  obtain ⟨lead, mark, tail, rfl, blank, stays⟩ := exists_first_filled filled
  refine ⟨mark :: tail.takeWhile (!isBlank ·), lead, tail.dropWhile (!isBlank ·), ?_, blank,
    List.cons_ne_nil _ _, ?_, ?_⟩
  · rw [List.cons_append, List.takeWhile_append_dropWhile]
  · refine List.forall_mem_cons.mpr ⟨stays, fun c member => ?_⟩
    simpa using List.mem_takeWhile_imp member
  · intro c next
    exact by simpa [Option.mem_def.mp next] using List.head?_dropWhile_not (!isBlank ·) tail

theorem head?_words_iff : (words text).head? = some word ↔ FirstWord text word := by
  constructor
  · intro found
    by_cases blank : Blank text
    · simp [words_of_blank blank] at found
    · obtain ⟨other, first⟩ := exists_firstWord blank
      obtain rfl : other = word := Option.some.inj (first.head?_words.symm.trans found)
      exact first
  · exact FirstWord.head?_words

end Words

section Mentions

variable {mark text before after inner front back : List Char}

/-- A mark where a text mentions it first, with what stands in front of it and behind it. -/
structure FirstMention (mark text before after : List Char) : Prop where
  whole : text = before ++ (mark ++ after)
  first : ∀ earlier later, text = earlier ++ (mark ++ later) → before.length ≤ earlier.length

theorem firstMention_of_prefix (rest : List Char) : FirstMention mark (mark ++ rest) [] rest :=
  ⟨rfl, fun _ _ _ => Nat.zero_le _⟩

theorem FirstMention.cons {c : Char} (mention : FirstMention mark text before after)
    (apart : ¬mark <+: c :: text) : FirstMention mark (c :: text) (c :: before) after where
  whole := by rw [mention.whole, List.cons_append]
  first := by
    intro earlier later whole
    cases earlier with
    | nil => exact absurd ⟨later, whole.symm⟩ apart
    | cons d earlier =>
      exact Nat.succ_le_succ (mention.first earlier later (List.cons.inj whole).2)

theorem FirstMention.unique {before' after' : List Char}
    (mention : FirstMention mark text before after)
    (mention' : FirstMention mark text before' after') : before = before' ∧ after = after' := by
  have length : before.length = before'.length :=
    Nat.le_antisymm (mention.first _ _ mention'.whole) (mention'.first _ _ mention.whole)
  obtain ⟨same, rest⟩ := List.append_inj (mention.whole.symm.trans mention'.whole) length
  exact ⟨same, List.append_cancel_left rest⟩

theorem firstMention_of_splitOnce (split : splitOnce mark text = some (before, after)) :
    FirstMention mark text before after := by
  induction text generalizing before with
  | nil =>
    rw [splitOnce, Option.ite_none_right_eq_some] at split
    obtain ⟨rfl, same⟩ := split
    obtain ⟨rfl, rfl⟩ := Prod.mk.inj (Option.some.inj same)
    exact firstMention_of_prefix []
  | cons c text ih =>
    rw [splitOnce] at split
    split_ifs at split with here
    · obtain ⟨rest, whole⟩ := List.isPrefixOf_iff_prefix.mp here
      obtain ⟨rfl, rfl⟩ := Prod.mk.inj (Option.some.inj split)
      rw [← whole, List.drop_left]
      exact firstMention_of_prefix rest
    · obtain ⟨⟨front, back⟩, later, same⟩ := Option.map_eq_some_iff.mp split
      obtain ⟨rfl, rfl⟩ := Prod.mk.inj same
      exact (ih later).cons fun before => here (List.isPrefixOf_iff_prefix.mpr before)

theorem splitOnce_eq_none_iff_not_mentioned : splitOnce mark text = none ↔ ¬mark <:+: text := by
  induction text with
  | nil => simp [splitOnce, List.infix_nil]
  | cons c text ih =>
    rw [splitOnce, List.infix_cons_iff, not_or, ← ih, ← List.isPrefixOf_iff_prefix]
    split_ifs with here
    · simp [here]
    · simp [here]

theorem splitOnce_eq_some_iff_mention :
    splitOnce mark text = some (before, after) ↔ FirstMention mark text before after := by
  constructor
  · exact firstMention_of_splitOnce
  · intro mention
    cases split : splitOnce mark text with
    | none =>
      exact absurd ⟨before, after, by rw [mention.whole, List.append_assoc]⟩
        (splitOnce_eq_none_iff_not_mentioned.mp split)
    | some parts =>
      obtain ⟨rfl, rfl⟩ := (firstMention_of_splitOnce split).unique mention
      rfl

/-- White space at neither end. -/
def Solid (mark : List Char) : Prop :=
  ∃ first last, mark.head? = some first ∧ mark.getLast? = some last ∧ isBlank first = false ∧
    isBlank last = false

/-- What stands in a text with white space around it stands in the text itself. -/
theorem Solid.within (solid : Solid mark) (blankFront : Blank front) (blankBack : Blank back)
    (whole : front ++ (inner ++ back) = before ++ (mark ++ after)) :
    ∃ earlier later, before = front ++ earlier ∧ after = later ++ back ∧
      inner = earlier ++ (mark ++ later) := by
  obtain ⟨first, last, atFirst, atLast, filledFirst, filledLast⟩ := solid
  -- No character of the mark is in front of the text, because the first one is not.
  obtain ⟨earlier, rfl, rest⟩ : ∃ earlier, before = front ++ earlier ∧
      inner ++ back = earlier ++ (mark ++ after) := by
    rcases List.append_eq_append_iff.mp whole with ⟨earlier, same, rest⟩ | ⟨extra, same, rest⟩
    · exact ⟨earlier, same, rest⟩
    · cases extra with
      | nil => exact ⟨[], by simpa using same.symm, by simpa using rest.symm⟩
      | cons c extra =>
        obtain ⟨others, rfl⟩ := List.head?_eq_some_iff.mp atFirst
        obtain ⟨rfl, -⟩ := List.cons.inj rest
        have := blankFront first (by simp [same])
        simp [filledFirst] at this
  -- And none is behind it, because the last one is not.
  rw [← List.append_assoc] at rest
  rcases List.append_eq_append_iff.mp rest with ⟨extra, same, behind⟩ | ⟨later, same, behind⟩
  · rcases List.eq_nil_or_concat extra with rfl | ⟨others, c, rfl⟩
    · exact ⟨earlier, [], rfl, by simpa using behind.symm, by simpa using same.symm⟩
    · obtain ⟨others', rfl⟩ := List.getLast?_eq_some_iff.mp atLast
      obtain rfl : c = last := by
        have ends := congrArg List.getLast? same
        simpa using ends.symm
      have := blankBack c (by simp [behind])
      simp [filledLast] at this
  · exact ⟨earlier, later, rfl, behind, by rw [same, List.append_assoc]⟩

theorem firstMention_surrounded_iff (solid : Solid mark) (blankFront : Blank front)
    (blankBack : Blank back) :
    FirstMention mark (front ++ (inner ++ back)) before after ↔
      ∃ earlier later, before = front ++ earlier ∧ after = later ++ back ∧
        FirstMention mark inner earlier later := by
  constructor
  · rintro ⟨whole, first⟩
    obtain ⟨earlier, later, rfl, rfl, inside⟩ := solid.within blankFront blankBack whole
    refine ⟨earlier, later, rfl, rfl, inside, fun earlier' later' inside' => ?_⟩
    have := first (front ++ earlier') (later' ++ back) (by simp [inside'])
    simpa using this
  · rintro ⟨earlier, later, rfl, rfl, inside, first⟩
    refine ⟨by rw [inside]; simp, fun before' after' whole => ?_⟩
    obtain ⟨earlier', later', rfl, rfl, inside'⟩ := solid.within blankFront blankBack whole
    have := first earlier' later' inside'
    simpa using this

end Mentions

section Ends

variable {p : Char → Bool} {text kept : List Char}

/-- What is left of a text without the characters of a kind at its end. -/
theorem rdropWhile_eq_iff :
    text.rdropWhile p = kept ↔
      ∃ taken, text = kept ++ taken ∧ (∀ c ∈ taken, p c = true) ∧
      ∀ c ∈ kept.getLast?, p c = false := by
  constructor
  · rintro rfl
    refine ⟨text.rtakeWhile p, List.rdropWhile_append_rtakeWhile.symm,
      fun c => List.mem_rtakeWhile_imp, fun c last => ?_⟩
    have some : text.rdropWhile p ≠ [] := by
      intro empty
      simp [empty] at last
    have stays := List.rdropWhile_last_not p text some
    rw [List.getLast?_eq_some_getLast some, Option.mem_def, Option.some.injEq] at last
    exact last ▸ eq_false_of_ne_true stays
  · rintro ⟨taken, rfl, all, stays⟩
    rw [List.rdropWhile, List.reverse_append,
      List.dropWhile_append_of_pos fun c member => all c (List.mem_reverse.mp member)]
    refine (List.rdropWhile_eq_self_iff).mpr fun some => ?_
    simpa using stays _ (List.getLast?_eq_some_getLast some)

end Ends

end EmbeddingLatency.Text
