import EmbeddingLatency.Report.Markdown
import Mathlib.Data.List.Forall2
import Mathlib.Data.List.Count
import Mathlib.Data.List.TakeWhile

/-!
# Reading a pipe table

A pipe table is read line by line, and a line is cut up at its pipes. A backslash makes a pipe part
of a cell, and the spaces around a cell are no part of it.

Nothing is escaped when a table is written. So it is read back exactly if none of its cells has a
pipe or a line end in it (`readsBack_text_iff`). One direction is the work of a reader that goes
over the cells one by one (`pipeParts_cellsText`). The other is a count: there is one line too many
for every line end inside a cell (`free_of_length`), and one cell too many for every pipe
(`single_parts`), unless the pipe is escaped, and then its backslash is missed (`free_or_fewer`).
-/

set_option autoImplicit false

namespace EmbeddingLatency.Report

open EmbeddingLatency.Text (rule splitBy)

/-- Does the character end a line? -/
def endsLine (c : Char) : Bool := c = '\n' || c = '\r'

/-- The text can stand in a cell as it is. -/
def Plain (text : String) : Prop := ∀ c ∈ text.toList, c ≠ '|' ∧ endsLine c = false

/-- One more character in front of the first part. -/
def onto (c : Char) : List (List Char) → List (List Char)
  | [] => [[c]]
  | part :: parts => (c :: part) :: parts

/-- The parts of a line between its pipes. A pipe behind a backslash is text. -/
def pipeParts : List Char → List (List Char)
  | [] => [[]]
  | '\\' :: '|' :: rest => onto '|' (pipeParts rest)
  | '|' :: rest => [] :: pipeParts rest
  | c :: rest => onto c (pipeParts rest)

/-- A text without the spaces around it. -/
def stripped (text : List Char) : List Char :=
  ((text.dropWhile (· = ' ')).reverse.dropWhile (· = ' ')).reverse

/-- The line reads as these cells. -/
def ReadsAs (cells : List String) (line : List Char) : Prop :=
  ∃ parts, pipeParts line = [] :: (parts ++ [[]]) ∧
    List.Forall₂ (fun part cell => stripped part = stripped cell.toList) parts cells

/-- The line has a run of dashes below each header. -/
def Underlines (headers : List String) (line : List Char) : Prop :=
  ∃ parts, pipeParts line = [] :: (parts ++ [[]]) ∧
    List.Forall₂ (fun part header => part = List.replicate (header.utf8ByteSize + 2) '-')
      parts headers

/-- A table that is written with pipes. -/
structure PipeTable where
  headers : List String
  rows : List (List String)
  deriving DecidableEq, Repr

namespace PipeTable

/-- The table as text. -/
def text (t : PipeTable) : String := pipeTable t.headers t.rows

/-- The text has a line for the headers, one below it, and one for each row, and nothing else. -/
def ReadsBack (t : PipeTable) (text : String) : Prop :=
  ∃ header dashes rows,
    Text.splitBy endsLine text.toList = header :: dashes :: (rows ++ [[]]) ∧
      ReadsAs t.headers header ∧ Underlines t.headers dashes ∧
      List.Forall₂ (fun cells line => ReadsAs cells line) t.rows rows

/-- The rows have a cell for each header. -/
structure Rectangular (t : PipeTable) : Prop where
  headers : t.headers ≠ []
  rows : ∀ row ∈ t.rows, row.length = t.headers.length

end PipeTable

section Parts

theorem onto_ne_nil (c : Char) (parts : List (List Char)) : onto c parts ≠ [] := by
  cases parts <;> simp [onto]

theorem onto_append (c : Char) {parts : List (List Char)} (filled : parts ≠ [])
    (more : List (List Char)) :
    onto c (parts ++ more) = onto c parts ++ more := by
  cases parts with
  | nil => exact absurd rfl filled
  | cons part parts => rfl

theorem onto_eq_singleton {c : Char} {parts : List (List Char)} {part : List Char}
    (single : onto c parts = [part]) (filled : parts ≠ []) :
    ∃ front, part = c :: front ∧ parts = [front] := by
  cases parts with
  | nil => exact absurd rfl filled
  | cons front parts =>
    obtain ⟨rfl, rfl⟩ := List.cons.inj single
    exact ⟨front, rfl, rfl⟩

/-- Any other character is taken as it is. -/
theorem pipeParts_cons {c : Char} {rest : List Char} (other : c ≠ '|')
    (bare : c = '\\' → ∀ tail, rest ≠ '|' :: tail) :
    pipeParts (c :: rest) = onto c (pipeParts rest) := by
  rw [pipeParts.eq_def]
  split
  case h_1 none => cases none
  case h_2 tail same =>
    obtain ⟨rfl, rfl⟩ := List.cons.inj same
    exact absurd rfl (bare rfl tail)
  case h_3 tail _ same =>
    obtain ⟨rfl, rfl⟩ := List.cons.inj same
    exact absurd rfl other
  case h_4 same =>
    obtain ⟨rfl, rfl⟩ := List.cons.inj same
    rfl

theorem pipeParts_ne_nil (text : List Char) : pipeParts text ≠ [] := by
  unfold pipeParts
  split
  · simp
  · exact onto_ne_nil _ _
  · simp
  · exact onto_ne_nil _ _

/-- The text as it is, where it has no pipes. -/
theorem pipeParts_of_free {text : List Char} (free : '|' ∉ text) : pipeParts text = [text] := by
  induction text with
  | nil => rfl
  | cons c text ih =>
    rw [List.mem_cons, not_or] at free
    have bare : c = '\\' → ∀ tail, text ≠ '|' :: tail := by
      rintro - tail rfl
      exact free.2 List.mem_cons_self
    rw [pipeParts_cons (Ne.symm free.1) bare, ih free.2]
    rfl

/-- A pipe behind a space ends a part. -/
theorem pipeParts_append (text rest : List Char) :
    pipeParts (text ++ ' ' :: '|' :: rest) = pipeParts (text ++ [' ']) ++ pipeParts rest := by
  fun_induction pipeParts text with
  | case1 => rfl
  | case2 text ih =>
    show onto '|' (pipeParts (text ++ ' ' :: '|' :: rest)) =
      onto '|' (pipeParts (text ++ [' '])) ++ pipeParts rest
    rw [ih, onto_append _ (pipeParts_ne_nil _)]
  | case3 text ih =>
    show [] :: pipeParts (text ++ ' ' :: '|' :: rest) =
      ([] :: pipeParts (text ++ [' '])) ++ pipeParts rest
    rw [ih, List.cons_append]
  | case4 c text notEscape notPipe ih =>
    have bare (behind : List Char) : c = '\\' → ∀ tail, text ++ ' ' :: behind ≠ '|' :: tail := by
      rintro rfl tail same
      cases text with
      | nil => cases same
      | cons d text =>
        obtain ⟨rfl, -⟩ := List.cons.inj same
        exact notEscape text rfl rfl
    rw [List.cons_append, List.cons_append, pipeParts_cons notPipe (bare _),
      pipeParts_cons notPipe (bare []), ih, onto_append _ (pipeParts_ne_nil _)]

/-- A text that is one part has no pipe, or there is one backslash more in the text. -/
theorem free_or_fewer {text part : List Char} (single : pipeParts text = [part]) :
    ('|' ∉ text ∧ part = text) ∨ part.count '\\' < text.count '\\' := by
  fun_induction pipeParts text generalizing part with
  | case1 =>
    obtain rfl : [] = part := List.head_eq_of_cons_eq single
    exact .inl ⟨List.not_mem_nil, rfl⟩
  | case2 text ih =>
    right
    obtain ⟨front, rfl, inner⟩ := onto_eq_singleton single (pipeParts_ne_nil text)
    rcases ih inner with ⟨-, rfl⟩ | fewer
    · simp
    · simp
      omega
  | case3 text ih => exact absurd (List.tail_eq_of_cons_eq single) (pipeParts_ne_nil text)
  | case4 c text notEscape notPipe ih =>
    obtain ⟨front, rfl, inner⟩ := onto_eq_singleton single (pipeParts_ne_nil text)
    rcases ih inner with ⟨free, rfl⟩ | fewer
    · exact .inl ⟨by simp [Ne.symm notPipe, free], rfl⟩
    · right
      rw [List.count_cons, List.count_cons]
      omega

theorem count_dropWhile_space (text : List Char) :
    (text.dropWhile (· = ' ')).count '\\' = text.count '\\' := by
  have spaces : (text.takeWhile (· = ' ')).count '\\' = 0 := by
    apply List.count_eq_zero.mpr
    intro member
    simpa using List.mem_takeWhile_imp member
  have whole :=
    congrArg (List.count '\\') (List.takeWhile_append_dropWhile (p := (· = ' ')) (l := text))
  rw [List.count_append, spaces, Nat.zero_add] at whole
  exact whole

/-- No backslash is lost with the spaces around a text. -/
theorem count_stripped (text : List Char) : (stripped text).count '\\' = text.count '\\' := by
  rw [stripped, List.count_reverse, count_dropWhile_space, List.count_reverse,
    count_dropWhile_space]

theorem stripped_padded (text : List Char) : stripped (' ' :: (text ++ [' '])) = stripped text := by
  unfold stripped
  rw [List.dropWhile_cons_of_pos (by decide), List.dropWhile_append]
  split
  case isTrue empty =>
    rw [List.isEmpty_iff.mp empty]
    rfl
  case isFalse =>
    rw [List.reverse_append, List.reverse_singleton, List.singleton_append,
      List.dropWhile_cons_of_pos (by decide)]

/-- A cell is read back from between its spaces if there is no pipe in it. -/
theorem exists_part_iff (cell : List Char) :
    (∃ part, pipeParts (' ' :: (cell ++ [' '])) = [part] ∧ stripped part = stripped cell) ↔
      '|' ∉ cell := by
  constructor
  · rintro ⟨part, single, same⟩
    rcases free_or_fewer single with ⟨free, -⟩ | fewer
    · simpa using free
    · have counts := congrArg (List.count '\\') same
      rw [count_stripped, count_stripped] at counts
      simp [counts] at fewer
  · intro free
    refine ⟨_, pipeParts_of_free ?_, stripped_padded cell⟩
    simpa using free

end Parts

section Rows

/-- If there are as many parts as items, every item has one part. -/
theorem single_parts {α β : Type} {parts : α → List β} {R : β → α → Prop} {items : List α}
    (filled : ∀ a, parts a ≠ []) (related : List.Forall₂ R (items.flatMap parts) items) :
    ∀ a ∈ items, ∃ b, parts a = [b] ∧ R b a := by
  have atLeast (items : List α) : items.length ≤ (items.flatMap parts).length := by
    induction items with
    | nil => exact Nat.le_refl _
    | cons a items ih =>
      have first := List.length_pos_iff.mpr (filled a)
      rw [List.flatMap_cons, List.length_append, List.length_cons]
      omega
  induction items with
  | nil => simp
  | cons a items ih =>
    obtain ⟨b, more, first⟩ := List.exists_cons_of_ne_nil (filled a)
    rw [List.flatMap_cons, first, List.cons_append, List.forall₂_cons] at related
    obtain ⟨here, there⟩ := related
    have none : more = [] := by
      have lengths := there.length_eq
      have others := atLeast items
      rw [List.length_append] at lengths
      exact List.length_eq_zero_iff.mp (by omega)
    subst none
    exact List.forall_mem_cons.mpr ⟨⟨b, first, here⟩, ih there⟩

/-- The cells of a line, each between two spaces and in front of a pipe. -/
def cellsText (cells : List String) : List Char :=
  cells.flatMap fun cell => ' ' :: (cell.toList ++ [' ', '|'])

/-- The runs of dashes of a line, each in front of a pipe. -/
def dashesText (headers : List String) : List Char :=
  headers.flatMap fun header => List.replicate (header.utf8ByteSize + 2) '-' ++ ['|']

theorem toList_pipeLine {cells : List String} (filled : cells ≠ []) :
    (pipeLine cells).toList = '|' :: cellsText cells ++ ['\n'] := by
  have inner : ' ' :: (String.intercalate " | " cells).toList ++ [' ', '|'] = cellsText cells := by
    induction cells with
    | nil => exact absurd rfl filled
    | cons cell cells ih =>
      cases cells with
      | nil => simp [cellsText]
      | cons next cells =>
        have bar : (" | " : String).toList = [' ', '|', ' '] := rfl
        rw [String.intercalate_cons_cons, cellsText, List.flatMap_cons, ← cellsText,
          ← ih (List.cons_ne_nil _ _), String.toList_append, String.toList_append, bar]
        simp
  rw [← inner, pipeLine]
  simp

theorem toList_pipeRule {headers : List String} (filled : headers ≠ []) :
    (pipeRule headers).toList = '|' :: dashesText headers ++ ['\n'] := by
  have inner :
      (String.intercalate "|" (headers.map fun h =>
        rule '-' (h.utf8ByteSize + 2))).toList ++ ['|'] = dashesText headers := by
    induction headers with
    | nil => exact absurd rfl filled
    | cons header headers ih =>
      cases headers with
      | nil => simp [dashesText, rule]
      | cons next headers =>
        have first : dashesText (header :: next :: headers) =
            List.replicate (header.utf8ByteSize + 2) '-' ++
              '|' :: dashesText (next :: headers) := by
          simp [dashesText]
        rw [first, ← ih (List.cons_ne_nil _ _), List.map_cons, List.map_cons,
          String.intercalate_cons_cons]
        simp [rule]
  rw [← inner, pipeRule]
  simp

/-- Every cell has its own parts. -/
theorem pipeParts_cellsText (cells : List String) :
    pipeParts (cellsText cells) =
      cells.flatMap (fun cell => pipeParts (' ' :: (cell.toList ++ [' ']))) ++ [[]] := by
  induction cells with
  | nil => rfl
  | cons cell cells ih =>
    have split := pipeParts_append (' ' :: cell.toList) (cellsText cells)
    have first :
        cellsText (cell :: cells) = (' ' :: cell.toList) ++ ' ' :: '|' :: cellsText cells := by
      simp [cellsText]
    rw [first, split, ih, List.flatMap_cons, List.append_assoc]
    rfl

theorem pipeParts_dashes (n : Nat) (rest : List Char) :
    pipeParts (List.replicate n '-' ++ '|' :: rest) = List.replicate n '-' :: pipeParts rest := by
  induction n with
  | zero => rfl
  | succ n ih =>
    rw [List.replicate_succ, List.cons_append, pipeParts_cons (by decide) (by simp), ih]
    rfl

theorem pipeParts_dashesText (headers : List String) :
    pipeParts (dashesText headers) =
      headers.map (fun header => List.replicate (header.utf8ByteSize + 2) '-') ++ [[]] := by
  induction headers with
  | nil => rfl
  | cons header headers ih =>
    rw [dashesText, List.flatMap_cons, ← dashesText, List.append_assoc, List.singleton_append,
      pipeParts_dashes, ih]
    rfl

/-- A line reads as its cells if no pipe is in one of them. -/
theorem readsAs_cellsText_iff (cells : List String) :
    ReadsAs cells ('|' :: cellsText cells) ↔ ∀ cell ∈ cells, '|' ∉ cell.toList := by
  have parts : pipeParts ('|' :: cellsText cells) =
      [] :: (cells.flatMap (fun cell => pipeParts (' ' :: (cell.toList ++ [' ']))) ++ [[]]) := by
    rw [← pipeParts_cellsText]
    rfl
  rw [ReadsAs, parts]
  constructor
  · rintro ⟨found, same, reads⟩
    obtain rfl := List.append_cancel_right (List.tail_eq_of_cons_eq same)
    intro cell member
    exact (exists_part_iff cell.toList).mp
      (single_parts (fun _ => pipeParts_ne_nil _) reads cell member)
  · intro free
    refine ⟨_, rfl, ?_⟩
    have single : ∀ cell ∈ cells, pipeParts (' ' :: (cell.toList ++ [' '])) =
        [' ' :: (cell.toList ++ [' '])] := by
      intro cell member
      apply pipeParts_of_free
      simpa using free cell member
    rw [List.flatMap_congr single, ← List.map_eq_flatMap, List.forall₂_map_left_iff,
      List.forall₂_same]
    exact fun cell _ => stripped_padded cell.toList

theorem underlines_dashesText (headers : List String) :
    Underlines headers ('|' :: dashesText headers) := by
  have parts : pipeParts ('|' :: dashesText headers) =
      [] :: (headers.map (fun header => List.replicate (header.utf8ByteSize + 2) '-') ++ [[]]) := by
    rw [← pipeParts_dashesText]
    rfl
  refine ⟨_, parts, ?_⟩
  rw [List.forall₂_map_left_iff, List.forall₂_same]
  exact fun _ _ => rfl

end Rows

section Lines

/-- Lines, each with a line feed behind it. -/
def ended (lines : List (List Char)) : List Char := lines.flatMap fun line => line ++ ['\n']

theorem length_splitBy (isBreak : Char → Bool) (text : List Char) :
    (splitBy isBreak text).length = text.countP isBreak + 1 := by
  induction text with
  | nil => rfl
  | cons c text ih =>
    obtain ⟨part, parts, split⟩ := List.exists_cons_of_ne_nil (Text.splitBy_ne_nil isBreak text)
    rw [split, List.length_cons] at ih
    rw [splitBy, split, List.countP_cons]
    by_cases marked : isBreak c = true
    · simp only [marked, if_true, List.length_cons]
      omega
    · simp only [marked, if_false, List.length_cons, Bool.false_eq_true]
      omega

/-- Lines without line ends in them are read back. -/
theorem splitBy_ended {lines : List (List Char)}
    (free : ∀ line ∈ lines, ∀ c ∈ line, endsLine c = false) :
    splitBy endsLine (ended lines) = lines ++ [[]] := by
  induction lines with
  | nil => rfl
  | cons line lines ih =>
    obtain ⟨here, there⟩ := List.forall_mem_cons.mp free
    have first : ended (line :: lines) = line ++ '\n' :: ended lines := by simp [ended]
    rw [first, Text.splitBy_append (by decide), Text.splitBy_of_free here, ih there]
    rfl

/-- If no more lines are read than have been written, there are no line ends in them. -/
theorem free_of_length {lines : List (List Char)}
    (length : (splitBy endsLine (ended lines)).length = lines.length + 1) :
    ∀ line ∈ lines, ∀ c ∈ line, endsLine c = false := by
  have count (lines : List (List Char)) :
      (ended lines).countP endsLine = (lines.map (List.countP endsLine)).sum + lines.length := by
    induction lines with
    | nil => rfl
    | cons line lines ih =>
      have first : ended (line :: lines) = line ++ '\n' :: ended lines := by simp [ended]
      rw [first, List.countP_append, List.countP_cons_of_pos (by decide), ih, List.map_cons,
        List.sum_cons, List.length_cons]
      omega
  have none : (lines.map (List.countP endsLine)).sum = 0 := by
    rw [length_splitBy, count] at length
    omega
  intro line member c inLine
  have zero := List.sum_eq_zero_iff_forall_eq_nat.mp none _ (List.mem_map_of_mem member)
  simpa using List.countP_eq_zero.mp zero c inLine

end Lines

namespace PipeTable

section Reading

variable {t : PipeTable}

/-- The lines of a table. -/
def lines (t : PipeTable) : List (List Char) :=
  ('|' :: cellsText t.headers) :: ('|' :: dashesText t.headers) ::
    t.rows.map fun row => '|' :: cellsText row

theorem toList_text (rectangular : t.Rectangular) : t.text.toList = ended t.lines := by
  have filled : ∀ row ∈ t.rows, row ≠ [] := by
    rintro row member rfl
    apply rectangular.headers
    exact List.length_eq_zero_iff.mp (rectangular.rows [] member).symm
  have rows : ∀ rows : List (List String), (∀ row ∈ rows, row ≠ []) →
      (String.join (rows.map pipeLine)).toList =
        ended (rows.map fun row => '|' :: cellsText row) := by
    intro rows filled
    induction rows with
    | nil => rfl
    | cons row rows ih =>
      obtain ⟨here, there⟩ := List.forall_mem_cons.mp filled
      rw [List.map_cons, String.join_cons, String.toList_append, toList_pipeLine here, ih there]
      rfl
  rw [text, pipeTable, String.toList_append, String.toList_append,
    toList_pipeLine rectangular.headers, toList_pipeRule rectangular.headers, rows t.rows filled]
  simp [lines, ended]

theorem mem_cellsText {cells : List String} {cell : String} {c : Char} (member : cell ∈ cells)
    (inCell : c ∈ cell.toList) : c ∈ cellsText cells := by
  apply List.mem_flatMap.mpr
  exact ⟨cell, member, by simp [inCell]⟩

/-- A line of plain cells ends nowhere but at its end. -/
theorem endsLine_cellsText {cells : List String} (plain : ∀ cell ∈ cells, Plain cell) :
    ∀ c ∈ '|' :: cellsText cells, endsLine c = false := by
  refine List.forall_mem_cons.mpr ⟨rfl, fun c member => ?_⟩
  obtain ⟨cell, inRow, inCell⟩ := List.mem_flatMap.mp member
  simp only [List.mem_cons, List.mem_append, List.not_mem_nil, or_false] at inCell
  rcases inCell with rfl | inCell | rfl | rfl
  · rfl
  · exact (plain cell inRow c inCell).2
  · rfl
  · rfl

theorem endsLine_dashesText (headers : List String) :
    ∀ c ∈ '|' :: dashesText headers, endsLine c = false := by
  refine List.forall_mem_cons.mpr ⟨rfl, fun c member => ?_⟩
  obtain ⟨header, -, inRun⟩ := List.mem_flatMap.mp member
  rcases List.mem_append.mp inRun with dash | bar
  · rw [List.eq_of_mem_replicate dash]
    rfl
  · rw [List.mem_singleton.mp bar]
    rfl

/-- A table whose headers are plain is read back exactly if its cells are plain. -/
theorem readsBack_text_iff (rectangular : t.Rectangular)
    (named : ∀ header ∈ t.headers, Plain header) :
    t.ReadsBack t.text ↔ ∀ row ∈ t.rows, ∀ cell ∈ row, Plain cell := by
  unfold ReadsBack
  rw [toList_text rectangular]
  constructor
  · rintro ⟨header, dashes, rows, split, -, -, reads⟩
    have free : ∀ line ∈ t.lines, ∀ c ∈ line, endsLine c = false := by
      apply free_of_length
      rw [split, lines]
      simp [reads.length_eq]
    rw [splitBy_ended free, lines, List.cons_append, List.cons_append] at split
    obtain rfl := List.append_cancel_right (List.tail_eq_of_cons_eq (List.tail_eq_of_cons_eq split))
    rw [List.forall₂_map_right_iff, List.forall₂_same] at reads
    intro row member cell inRow c inCell
    have line : '|' :: cellsText row ∈ t.lines := by
      simp only [lines, List.mem_cons, List.mem_map]
      exact .inr (.inr ⟨row, member, rfl⟩)
    constructor
    · rintro rfl
      exact (readsAs_cellsText_iff row).mp (reads row member) cell inRow inCell
    · exact free _ line c (List.mem_cons_of_mem _ (mem_cellsText inRow inCell))
  · intro plain
    have noPipe {cells : List String} (plain : ∀ cell ∈ cells, Plain cell) :
        ReadsAs cells ('|' :: cellsText cells) :=
      (readsAs_cellsText_iff cells).mpr fun cell inRow inCell => (plain cell inRow _ inCell).1 rfl
    refine ⟨_, _, t.rows.map fun row => '|' :: cellsText row, ?_, noPipe named,
      underlines_dashesText t.headers, ?_⟩
    · apply splitBy_ended
      unfold lines
      refine List.forall_mem_cons.mpr ⟨endsLine_cellsText named, ?_⟩
      refine List.forall_mem_cons.mpr ⟨endsLine_dashesText t.headers, ?_⟩
      exact List.forall_mem_map.mpr fun row member => endsLine_cellsText (plain row member)
    · rw [List.forall₂_map_right_iff, List.forall₂_same]
      exact fun row member => noPipe (plain row member)

end Reading

end PipeTable

end EmbeddingLatency.Report
