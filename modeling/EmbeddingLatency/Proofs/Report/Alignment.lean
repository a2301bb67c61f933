import EmbeddingLatency.Proofs.Text.WhiteSpace
import EmbeddingLatency.Report.Console
import Mathlib.Algebra.GroupWithZero.Nat
import Mathlib.Data.List.Forall2
import Mathlib.Data.List.TakeWhile

/-!
# Tables line up

Widths count bytes and fields count code points. No cell has more code points than bytes, so every
cell finds room in a field of its column (`occupies_placed`), and the fields in front of a separator
are as long as their columns are wide (`length_intercalate_take`). White space that is trimmed at
the end of a line never goes past a separator (`line_separated`).

A field has a greatest width. A table is shown unless a column is wider than that, and nothing else
keeps it from being shown (`render?_eq_some_iff`).
-/

set_option autoImplicit false

namespace EmbeddingLatency.Report

open EmbeddingLatency.Text
  (exists_trimRight isBlank padLeft padLeft? padRight padRight? rule trimRight
  trimRight_append_cons widestField)

/-- A cell in a field of some width: all of it, with blanks on one side. -/
structure Occupies (onTheRight : Bool) (width : Nat) (cell field : String) : Prop where
  length : field.length = width
  whole : ∃ n, field = if onTheRight then rule ' ' n ++ cell else cell ++ rule ' ' n

/-- Where the separator behind a column begins. -/
def separatorAt (widths : List Nat) (i : Nat) : Nat := (widths.take (i + 1)).sum + 3 * i

/-- A line of cells: each in a field as wide as its column, with separators between the fields and
    no white space at the end. -/
structure Aligned (widths : List Nat) (onTheRight : String → Bool) (cells fields : List String)
    (text : String) : Prop where
  length : fields.length = cells.length
  occupied : ∀ (i : Nat) (cell : String), cells[i]? = some cell →
    ∃ width field, widths[i]? = some width ∧ fields[i]? = some field ∧
      Occupies (onTheRight cell) width cell field
  trimmed : ∃ front blanks, text = front ++ "\n" ∧
    String.intercalate " | " fields = front ++ blanks ∧
    (∀ c ∈ blanks.toList, isBlank c = true) ∧
    ∀ c, front.toList.getLast? = some c → isBlank c = false
  separated : ∀ i, i + 1 < fields.length →
    ∃ before after, text = before ++ " |" ++ after ∧ before.length = separatorAt widths i ∧
      before = String.intercalate " | " (fields.take (i + 1))

/-- A cell at its side of a field. -/
def placed (onTheRight : String → Bool) (cell : String) (width : Nat) : String :=
  if onTheRight cell then padLeft width cell else padRight width cell

section Fields

variable {onTheRight : String → Bool}

theorem occupies_placed {cell : String} {width : Nat} (room : cell.utf8ByteSize ≤ width) :
    Occupies (onTheRight cell) width cell (placed onTheRight cell width) := by
  have room : cell.length ≤ width := Nat.le_trans (Text.length_le_utf8ByteSize cell) room
  unfold placed
  cases onTheRight cell with
  | true => exact ⟨Text.length_padLeft width cell room, width - cell.length, rfl⟩
  | false => exact ⟨Text.length_padRight width cell room, width - cell.length, rfl⟩

theorem length_intercalate (fields : List String) :
    (String.intercalate " | " fields).length =
      (fields.map String.length).sum + 3 * (fields.length - 1) := by
  induction fields with
  | nil => rfl
  | cons field fields ih =>
    cases fields with
    | nil => simp
    | cons next fields =>
      have separator : (" | " : String).length = 3 := rfl
      rw [String.intercalate_cons_cons, String.length_append, String.length_append, ih, separator]
      simp only [List.map_cons, List.sum_cons, List.length_cons]
      omega

/-- The first fields are as long as their columns are wide. -/
theorem length_intercalate_take {widths : List Nat} {fields : List String}
    (wide : ∀ (i : Nat) (field : String), fields[i]? = some field → widths[i]? = some field.length)
    {i : Nat}
    (inside : i < fields.length) :
    (String.intercalate " | " (fields.take (i + 1))).length = separatorAt widths i := by
  have lengths : (fields.take (i + 1)).map String.length = widths.take (i + 1) := by
    refine List.ext_getElem? fun j => ?_
    rw [List.getElem?_map, List.getElem?_take, List.getElem?_take]
    split
    case isTrue before =>
      rw [List.getElem?_eq_getElem (by omega : j < fields.length)]
      exact (wide j _ (List.getElem?_eq_getElem _)).symm
    case isFalse => rfl
  rw [length_intercalate, lengths, separatorAt, List.length_take]
  omega

/-- Behind some fields there is a separator, unless they are the last ones. -/
theorem line_separated {fields : List String} {i : Nat} (inside : i + 1 < fields.length) :
    ∃ after, ConsoleTable.line fields =
      String.intercalate " | " (fields.take (i + 1)) ++ " |" ++ after := by
  have front : fields.take (i + 1) ≠ [] := by
    intro empty
    have short := congrArg List.length empty
    rw [List.length_take, List.length_nil] at short
    omega
  have back : fields.drop (i + 1) ≠ [] := by
    intro empty
    have short := List.drop_eq_nil_iff.mp empty
    omega
  have split := String.intercalate_append_of_ne_nil (s := " | ") front back
  rw [List.take_append_drop] at split
  generalize String.intercalate " | " (fields.take (i + 1)) = before at split ⊢
  generalize String.intercalate " | " (fields.drop (i + 1)) = rest at split
  refine ⟨String.ofList (trimRight (' ' :: rest.toList)) ++ "\n", ?_⟩
  have text : (String.intercalate " | " fields).toList =
      (before.toList ++ [' ']) ++ '|' :: (' ' :: rest.toList) := by
    rw [split]
    simp
  rw [ConsoleTable.line, text, trimRight_append_cons (by decide)]
  apply String.toList_injective
  simp

theorem aligned_line {widths : List Nat} {cells : List String}
    (columns : cells.length ≤ widths.length)
    (room : ∀ (i : Nat) (cell : String) (width : Nat), cells[i]? = some cell →
      widths[i]? = some width → cell.utf8ByteSize ≤ width) :
    Aligned widths onTheRight cells (cells.zipWith (placed onTheRight) widths)
      (ConsoleTable.line (cells.zipWith (placed onTheRight) widths)) := by
  have occupied (i : Nat) (cell : String) (inRow : cells[i]? = some cell) :
      ∃ width field, widths[i]? = some width ∧
        (cells.zipWith (placed onTheRight) widths)[i]? = some field ∧
        Occupies (onTheRight cell) width cell field := by
    obtain ⟨inside, -⟩ := List.getElem?_eq_some_iff.mp inRow
    have column := List.getElem?_eq_getElem (Nat.lt_of_lt_of_le inside columns)
    refine ⟨_, _, column, ?_, occupies_placed (room i cell _ inRow column)⟩
    rw [List.getElem?_zipWith, inRow, column]
  have length : (cells.zipWith (placed onTheRight) widths).length = cells.length := by
    rw [List.length_zipWith]
    omega
  have wide (i : Nat) (field : String)
      (inLine : (cells.zipWith (placed onTheRight) widths)[i]? = some field) :
      widths[i]? = some field.length := by
    obtain ⟨inside, -⟩ := List.getElem?_eq_some_iff.mp inLine
    rw [length] at inside
    obtain ⟨width, field', column, inLine', occupies⟩ :=
      occupied i _ (List.getElem?_eq_getElem inside)
    obtain rfl : field' = field := Option.some.inj (inLine'.symm.trans inLine)
    rw [column, occupies.length]
  constructor
  case length => exact length
  case occupied => exact occupied
  case trimmed =>
    obtain ⟨blanks, whole, blank, last⟩ := exists_trimRight
      (String.intercalate " | " (cells.zipWith (placed onTheRight) widths)).toList
    refine ⟨_, String.ofList blanks, rfl, ?_, ?_, ?_⟩
    · rw [← String.ofList_append, ← whole, String.ofList_toList]
    · simpa using blank
    · simpa using last
  case separated =>
    intro i inside
    obtain ⟨after, text⟩ := line_separated inside
    exact ⟨_, after, text, length_intercalate_take wide (by omega), rfl⟩

end Fields

namespace ConsoleTable

/-- What stands in a column: its header, and a cell of every row that reaches it. -/
def column (t : ConsoleTable) (i : Nat) : List String :=
  t.headers[i]?.toList ++ t.rows.filterMap fun row => row[i]?

/-- A table as text: every line in columns that are as wide as their widest cell in bytes. -/
structure LaidOut (t : ConsoleTable) (text : String) : Prop where
  columns : t.widths.length = t.headers.length
  widest : ∀ (i width : Nat), t.widths[i]? = some width →
    (∃ cell ∈ t.column i, cell.utf8ByteSize = width) ∧
      ∀ cell ∈ t.column i, cell.utf8ByteSize ≤ width
  lines : ∃ header rows,
    text = "\n" ++ t.title ++ "\n" ++
      rule '=' (max (t.widths.sum + 3 * (t.headers.length - 1)) t.title.utf8ByteSize) ++ "\n" ++
      header ++
      rule '-' (t.widths.sum + 3 * (t.headers.length - 1)) ++ "\n" ++
      String.join rows ∧
    (∃ fields, Aligned t.widths (fun _ => false) t.headers fields header) ∧
    List.Forall₂ (fun row line => ∃ fields, Aligned t.widths readsAsNumber row fields line)
      t.rows rows

section Rendering

variable {t : ConsoleTable}

theorem length_widths : t.widths.length = t.headers.length := List.length_mapIdx

theorem widest_of_widths {i width : Nat} (here : t.widths[i]? = some width) :
    (∃ cell ∈ t.column i, cell.utf8ByteSize = width) ∧
      ∀ cell ∈ t.column i, cell.utf8ByteSize ≤ width := by
  rw [widths, List.getElem?_mapIdx, Option.map_eq_some_iff] at here
  obtain ⟨header, named, rfl⟩ := here
  have sizes : (t.column i).map String.utf8ByteSize =
      header.utf8ByteSize :: t.rows.filterMap fun row => (row[i]?).map String.utf8ByteSize := by
    rw [column, named, Option.toList_some, List.singleton_append, List.map_cons, List.map_filterMap]
  have greatest : ((t.column i).map String.utf8ByteSize).max? = some (width t.rows i header) := by
    rw [sizes, List.max?_cons']
    rfl
  obtain ⟨taken, bound⟩ := List.max?_eq_some_iff.mp greatest
  exact ⟨List.mem_map.mp taken, fun cell member => bound _ (List.mem_map_of_mem member)⟩

theorem laidOut_render (short : ∀ row ∈ t.rows, row.length ≤ t.headers.length) :
    t.LaidOut t.render := by
  have total : t.totalWidth = t.widths.sum + 3 * (t.headers.length - 1) := by
    rw [totalWidth, List.sum_eq_foldr, length_widths]
  have header : ∃ fields, Aligned t.widths (fun _ => false) t.headers fields t.headerLine := by
    refine ⟨_, aligned_line (Nat.le_of_eq length_widths.symm) ?_⟩
    intro i header width named here
    apply (widest_of_widths here).2
    simp [column, named]
  have rows (row : List String) (member : row ∈ t.rows) :
      ∃ fields, Aligned t.widths readsAsNumber row fields (t.rowLine row) := by
    refine ⟨_, aligned_line ((short row member).trans_eq length_widths.symm) ?_⟩
    intro i cell width inRow here
    apply (widest_of_widths here).2
    rw [column, List.mem_append, List.mem_filterMap]
    exact .inr ⟨row, member, inRow⟩
  constructor
  case columns => exact length_widths
  case widest => exact fun i width => widest_of_widths
  case lines =>
    refine ⟨t.headerLine, t.rows.map t.rowLine, ?_, header, ?_⟩
    · rw [render, total]
    · rw [List.forall₂_map_right_iff, List.forall₂_same]
      exact rows

end Rendering

end ConsoleTable

/-- Steps that may fail, gone through one by one: all of them have to succeed. -/
theorem mapM_eq_some_iff {α β : Type} {step : α → Option β} {allowed : α → Prop} {result : α → β}
    (steps : ∀ a b, step a = some b ↔ allowed a ∧ b = result a) (items : List α)
    (results : List β) :
    items.mapM step = some results ↔ (∀ a ∈ items, allowed a) ∧ results = items.map result := by
  induction items generalizing results with
  | nil => simp [eq_comm]
  | cons a items ih =>
    rw [List.mapM_cons]
    constructor
    · intro succeeds
      obtain ⟨b, first, succeeds⟩ := Option.bind_eq_some_iff.mp succeeds
      obtain ⟨bs, others, succeeds⟩ := Option.bind_eq_some_iff.mp succeeds
      obtain ⟨here, rfl⟩ := (steps a b).mp first
      obtain ⟨there, rfl⟩ := (ih bs).mp others
      exact ⟨List.forall_mem_cons.mpr ⟨here, there⟩, (Option.some.inj succeeds).symm⟩
    · rintro ⟨all, rfl⟩
      obtain ⟨here, there⟩ := List.forall_mem_cons.mp all
      rw [(steps a _).mpr ⟨here, rfl⟩, (ih _).mpr ⟨there, rfl⟩]
      rfl

namespace ConsoleTable

/-- All columns are narrow enough for fields. -/
def Fits (t : ConsoleTable) : Prop := ∀ width ∈ t.widths, width ≤ widestField

section Fields

variable {t : ConsoleTable}

theorem padRight?_eq_some_iff (cell field : String) (width : Nat) :
    padRight? width cell = some field ↔ width ≤ widestField ∧ field = padRight width cell := by
  rw [padRight?, Option.ite_none_right_eq_some, Option.some_inj, eq_comm]

theorem alignedCell?_eq_some_iff (cell field : String) (width : Nat) :
    alignedCell? cell width = some field ↔ width ≤ widestField ∧
    field = alignedCell cell width := by
  unfold alignedCell? alignedCell
  split
  · rw [padLeft?, Option.ite_none_right_eq_some, Option.some_inj, eq_comm]
  · exact padRight?_eq_some_iff cell field width

/-- A line is laid out if all of its cells are. -/
theorem map_line_eq_some_iff {step : String → Nat → Option String} {place : String → Nat → String}
    (steps : ∀ cell field width,
      step cell width = some field ↔ width ≤ widestField ∧ field = place cell width)
    (cells : List String) (widths : List Nat) (text : String) :
    ((cells.zip widths).mapM fun column => step column.1 column.2).map line = some text ↔
      (∀ column ∈ cells.zip widths, column.2 ≤ widestField) ∧
        text = line (cells.zipWith place widths) := by
  have fields := mapM_eq_some_iff
    (fun (column : String × Nat) field => steps column.1 field column.2) (cells.zip widths)
  have placed : (cells.zip widths).map (fun column => place column.1 column.2) =
      cells.zipWith place widths := List.map_zip_eq_zipWith
  rw [Option.map_eq_some_iff]
  constructor
  · rintro ⟨laid, laid?, rfl⟩
    obtain ⟨fits, rfl⟩ := (fields laid).mp laid?
    exact ⟨fits, by rw [placed]⟩
  · rintro ⟨fits, rfl⟩
    exact ⟨_, (fields _).mpr ⟨fits, placed.symm⟩, rfl⟩

theorem headerLine?_eq_some_iff (text : String) :
    t.headerLine? = some text ↔ t.Fits ∧ text = t.headerLine := by
  have named : (t.headers.zip t.widths).map Prod.snd = t.widths :=
    List.map_snd_zip (Nat.le_of_eq length_widths)
  have fits : (∀ column ∈ t.headers.zip t.widths, column.2 ≤ widestField) ↔ t.Fits := by
    constructor
    · intro fits width member
      rw [← named, List.mem_map] at member
      obtain ⟨column, member, rfl⟩ := member
      exact fits column member
    · exact fun fits column member => fits _ (List.of_mem_zip member).2
  rw [← fits]
  exact map_line_eq_some_iff padRight?_eq_some_iff t.headers t.widths text

theorem rowLine?_eq_some_iff (row : List String) (text : String) :
    t.rowLine? row = some text ↔
      (∀ column ∈ row.zip t.widths, column.2 ≤ widestField) ∧ text = t.rowLine row :=
  map_line_eq_some_iff alignedCell?_eq_some_iff row t.widths text

theorem render?_eq_some_iff (text : String) : t.render? = some text ↔ t.Fits ∧ text = t.render := by
  have rows := mapM_eq_some_iff (rowLine?_eq_some_iff (t := t)) t.rows
  constructor
  · intro shown
    obtain ⟨header, header?, shown⟩ := Option.bind_eq_some_iff.mp shown
    obtain ⟨fits, rfl⟩ := (headerLine?_eq_some_iff header).mp header?
    obtain ⟨lines, lines?, shown⟩ := Option.bind_eq_some_iff.mp shown
    obtain ⟨-, rfl⟩ := (rows lines).mp lines?
    exact ⟨fits, (Option.some.inj shown).symm⟩
  · rintro ⟨fits, rfl⟩
    have fitRows : ∀ row ∈ t.rows, ∀ column ∈ row.zip t.widths, column.2 ≤ widestField :=
      fun row _ column member => fits _ (List.of_mem_zip member).2
    rw [render?, (headerLine?_eq_some_iff _).mpr ⟨fits, rfl⟩, (rows _).mpr ⟨fitRows, rfl⟩]
    rfl

end Fields

end ConsoleTable

section Terminal

variable {d : Dataset}

theorem short_groupTextTable {κ : Type} {title header : String} {labelText : κ → String}
    {groups : List (Group κ Float)} :
    ∀ row ∈ (groupTextTable d title header labelText groups).rows,
      row.length ≤ (groupTextTable d title header labelText groups).headers.length := by
  intro row member
  obtain ⟨g, -, rfl⟩ := List.mem_map.mp member
  have length := length_timingCells d.context.gpuAvailable g.summary.cpu g.summary.gpu
    g.summary.speedup "Speedup"
  simp only [groupTextTable, summaryCells, List.length_cons, length, Nat.le_refl]

/-- The tables of a report have no rows longer than their header. -/
theorem short_of_mem_textTables {t : ConsoleTable} (member : t ∈ textTables d) :
    ∀ row ∈ t.rows, row.length ≤ t.headers.length := by
  have models :
      ∀ row ∈ (modelsTextTable d).rows, row.length ≤ (modelsTextTable d).headers.length := by
    intro row member
    obtain ⟨row, -, rfl⟩ := List.mem_map.mp member
    exact Nat.le_refl _
  have comparison :
      ∀ row ∈ (comparisonTextTable d).rows,
        row.length ≤ (comparisonTextTable d).headers.length := by
    intro row member
    obtain ⟨row, -, rfl⟩ := List.mem_map.mp member
    have length := length_timingCells d.context.gpuAvailable (figures row.cpu) (row.gpu.map figures)
      row.speedup "Speedup"
    simp only [comparisonTextTable, rowCells, List.length_append, List.length_cons, List.length_nil,
      length, Nat.le_refl]
  unfold textTables at member
  split at member
  case isTrue =>
    rw [List.mem_singleton.mp member]
    exact models
  case isFalse =>
    simp only [List.mem_cons, List.not_mem_nil, or_false] at member
    rcases member with rfl | rfl | rfl | rfl
    · exact models
    · exact comparison
    · exact short_groupTextTable
    · exact short_groupTextTable

/-- Nothing but too wide a column keeps a report from being shown. -/
theorem console?_eq_some_iff (d : Dataset) (text : String) :
    console? d = some text ↔ (∀ t ∈ textTables d, t.Fits) ∧ text = console d := by
  have tables := mapM_eq_some_iff (fun t text => ConsoleTable.render?_eq_some_iff (t := t) text)
    (textTables d)
  have whole :
      hardwareLines d.context.hardware ++ String.join ((textTables d).map ConsoleTable.render) ++
        (if d.context.plan.dryRun then "\nDry run complete - no timing data collected\n" else "") =
      console d := by
    unfold console textTables
    split <;> simp [String.append_assoc]
  rw [console?, Option.map_eq_some_iff]
  simp only [tables]
  constructor
  · rintro ⟨texts, ⟨fit, rfl⟩, rfl⟩
    exact ⟨fit, whole⟩
  · rintro ⟨fit, rfl⟩
    exact ⟨_, ⟨fit, rfl⟩, whole⟩

/-- All tables of a report that is shown line up. -/
theorem console_lines_up {text : String} (shown : console? d = some text) :
    text = console d ∧ ∀ t ∈ textTables d, t.LaidOut t.render := by
  obtain ⟨-, rfl⟩ := (console?_eq_some_iff d text).mp shown
  exact ⟨rfl, fun t member => ConsoleTable.laidOut_render (short_of_mem_textTables member)⟩

end Terminal

/-- **Tables line up.** A table whose rows are no longer than its header is shown unless one of
    its columns is wider than a field can be, and what is shown stands in columns: each as wide
    as its widest cell, numbers on the right, and every separator at the same place in all lines
    that reach it. -/
theorem table_lines_up (t : ConsoleTable) (short : ∀ row ∈ t.rows, row.length ≤ t.headers.length) :
    ((∃ text, t.render? = some text) ↔ ∀ width ∈ t.widths, width ≤ widestField) ∧
      ∀ text, t.render? = some text → t.LaidOut text := by
  constructor
  · constructor
    · rintro ⟨text, shown⟩
      exact ((ConsoleTable.render?_eq_some_iff text).mp shown).1
    · intro fits
      exact ⟨t.render, (ConsoleTable.render?_eq_some_iff _).mpr ⟨fits, rfl⟩⟩
  · intro text shown
    obtain ⟨-, rfl⟩ := (ConsoleTable.render?_eq_some_iff text).mp shown
    exact ConsoleTable.laidOut_render short

/-- A table with accents and with a row that ends early. -/
def accented : ConsoleTable where
  title := "Modèles"
  headers := ["Modèle", "P50", "Type"]
  rows := [["é", "12.50", "bert"], ["gte", "7"]]

/-- The accent takes two bytes, so there is one blank more in its column than code points need. -/
theorem accented_lines_up :
    (∀ row ∈ accented.rows, row.length ≤ accented.headers.length) ∧
      accented.widths = [7, 5, 4] ∧ ∃ text, accented.render? = some text ∧
      accented.LaidOut text := by
  have short : ∀ row ∈ accented.rows, row.length ≤ accented.headers.length := by decide
  have widths : accented.widths = [7, 5, 4] := by decide
  obtain ⟨shown, laidOut⟩ := table_lines_up accented short
  obtain ⟨text, text?⟩ := shown.mpr (by rw [widths]; decide)
  exact ⟨short, widths, text, text?, laidOut text text?⟩

/-- A table with a cell of some length. -/
def longCell (n : Nat) : ConsoleTable where
  title := "T"
  headers := ["H"]
  rows := [[rule 'a' n]]

theorem le_widestField_of_fits {n : Nat} (fits : (longCell n).Fits) : n ≤ widestField := by
  obtain ⟨width, column⟩ : ∃ width, (longCell n).widths[0]? = some width :=
    ⟨_, List.getElem?_eq_getElem (ConsoleTable.length_widths.trans_gt Nat.one_pos)⟩
  have room : (rule 'a' n).utf8ByteSize ≤ width := by
    apply (ConsoleTable.widest_of_widths column).2
    simp [ConsoleTable.column, longCell]
  calc
    n = (rule 'a' n).length := (Text.length_rule 'a' n).symm
    _ ≤ (rule 'a' n).utf8ByteSize := Text.length_le_utf8ByteSize _
    _ ≤ width := room
    _ ≤ widestField := fits width (List.mem_of_getElem? column)

/-- Not every table is shown. -/
theorem longCell_not_shown :
    ¬∀ t : ConsoleTable, t.headers ≠ [] → (∀ row ∈ t.rows, row.length ≤ t.headers.length) →
      ∃ text, t.render? = some text ∧ t.LaidOut text := by
  intro all
  obtain ⟨text, shown, -⟩ := all (longCell 65536) (List.cons_ne_nil _ _)
    (by simp [longCell])
  obtain ⟨fits, -⟩ := (ConsoleTable.render?_eq_some_iff text).mp shown
  have narrow := le_widestField_of_fits fits
  simp [widestField] at narrow

end EmbeddingLatency.Report
