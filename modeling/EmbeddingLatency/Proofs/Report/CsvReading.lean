import EmbeddingLatency.Report.Csv

/-!
# Reading CSV texts

A reader for the format of RFC 4180, against which the writer is checked: fields in quotes may hold
any character, with two quotes for each quote, and other fields hold no special character. Lines may
end with a line feed alone, and the last one need not end at all. Whatever is written, special
characters or not, is read as it was.
-/

set_option autoImplicit false

namespace EmbeddingLatency.Report

/-- Where the reader stands in a record. -/
inductive CsvPlace where
  /-- At the beginning of a field. -/
  | start
  /-- In a field without quotes. -/
  | bare
  /-- Between the quotes of a field. -/
  | quoted
  /-- Behind a quote that may be the last one of its field. -/
  | closed
  deriving DecidableEq, Repr

/-- What is ahead of the reader: the rest of its field, the other fields of the record, and the
    records below. -/
structure CsvAhead where
  field : List Char
  fields : List (List Char)
  records : List (List (List Char))
  deriving DecidableEq, Repr

namespace CsvAhead

/-- Some characters more in front of the field. -/
def push (characters : List Char) (a : CsvAhead) : CsvAhead :=
  { a with field := characters ++ a.field }

/-- The records from the reader's own one on. -/
def all (a : CsvAhead) : List (List (List Char)) := (a.field :: a.fields) :: a.records

/-- The reader stands in front of a comma. -/
def beforeComma (a : CsvAhead) : CsvAhead := ⟨[], a.field :: a.fields, a.records⟩

/-- The reader stands at the end of a line. -/
def beforeLines (records : List (List (List Char))) : CsvAhead := ⟨[], [], records⟩

@[simp] theorem push_nil : push [] = id := rfl

@[simp] theorem push_push (first second : List Char) (a : CsvAhead) :
    (a.push second).push first = a.push (first ++ second) := by
  simp [push]

end CsvAhead

/-- Reads on from a place in a record. A line break at the end of the text begins no record. -/
def readFrom : CsvPlace → List Char → Option CsvAhead
  | .quoted, [] => none
  | _, [] => some (.beforeLines [])
  | .quoted, '"' :: rest => readFrom .closed rest
  | .quoted, c :: rest => (readFrom .quoted rest).map (.push [c])
  | .start, '"' :: rest => readFrom .quoted rest
  | .closed, '"' :: rest => (readFrom .quoted rest).map (.push ['"'])
  | _, ',' :: rest => (readFrom .start rest).map .beforeComma
  | _, ['\n'] => some (.beforeLines [])
  | _, '\n' :: rest => (readFrom .start rest).map fun a => .beforeLines a.all
  | _, ['\r', '\n'] => some (.beforeLines [])
  | _, '\r' :: '\n' :: rest => (readFrom .start rest).map fun a => .beforeLines a.all
  | .closed, _ => none
  | _, c :: rest => if isCsvSpecial c then none else (readFrom .bare rest).map (.push [c])

/-- The records of some lines. -/
def readLines (text : List Char) : Option (List (List (List Char))) :=
  if text = [] then some [] else (readFrom .start text).map (·.all)

/-- Reads a CSV text: the fields of its records, or nothing if it is not well formed. -/
def readCsv (text : String) : Option (List (List String)) :=
  (readLines text.toList).map fun records => records.map fun fields => fields.map String.ofList

section

variable {rest : List Char}

theorem readFrom_comma {place : CsvPlace} (outside : place ≠ .quoted) (rest : List Char) :
    readFrom place (',' :: rest) = (readFrom .start rest).map .beforeComma := by
  cases place with
  | quoted => exact absurd rfl outside
  | _ => rfl

theorem readFrom_opening (rest : List Char) :
    readFrom .start ('"' :: rest) = readFrom .quoted rest := rfl

theorem readFrom_closing (rest : List Char) :
    readFrom .quoted ('"' :: rest) = readFrom .closed rest := rfl

theorem readFrom_secondQuote (rest : List Char) :
    readFrom .closed ('"' :: rest) = (readFrom .quoted rest).map (.push ['"']) := rfl

/-- Between quotes all other characters stand for themselves. -/
theorem readFrom_inside {c : Char} (other : c ≠ '"') (rest : List Char) :
    readFrom .quoted (c :: rest) = (readFrom .quoted rest).map (.push [c]) := by
  rw [readFrom]
  exact other

theorem readFrom_plain {place : CsvPlace} (outside : place = .start ∨ place = .bare) {c : Char}
    (plain : isCsvSpecial c = false) (rest : List Char) :
    readFrom place (c :: rest) = (readFrom .bare rest).map (.push [c]) := by
  have others : c ≠ ',' ∧ c ≠ '"' ∧ c ≠ '\n' ∧ c ≠ '\r' := by
    simpa [isCsvSpecial, and_assoc] using plain
  rcases outside with rfl | rfl
  · rw [readFrom] <;> simp_all
  · rw [readFrom] <;> simp_all

/-- Below the end of a line there are lines. -/
theorem readFrom_newline {place : CsvPlace} (outside : place ≠ .quoted) (rest : List Char) :
    readFrom place ('\n' :: rest) = (readLines rest).map .beforeLines := by
  cases place with
  | quoted => exact absurd rfl outside
  | _ =>
    cases rest with
    | nil => rfl
    | cons c rest => exact (Option.map_map _ _ _).symm

/-- The rest of a text begins where a field ends. -/
def EndsField (rest : List Char) : Prop :=
  ∀ place, place ≠ .quoted → readFrom place rest = readFrom .start rest

theorem endsField_comma (rest : List Char) : EndsField (',' :: rest) := by
  intro place outside
  rw [readFrom_comma outside, readFrom_comma (by decide)]

theorem endsField_newline (rest : List Char) : EndsField ('\n' :: rest) := by
  intro place outside
  rw [readFrom_newline outside, readFrom_newline (by decide)]

/-- A field in quotes is read up to the quote that closes it. -/
theorem readFrom_doubledQuotes (field rest : List Char) :
    readFrom .quoted (doubledQuotes field ++ '"' :: rest) =
      (readFrom .closed rest).map (.push field) := by
  induction field with
  | nil => simp [doubledQuotes, readFrom_closing]
  | cons c field ih =>
    by_cases quote : c = '"'
    · subst quote
      simp [doubledQuotes, readFrom_closing, readFrom_secondQuote, ih, Function.comp_def]
    · simp [doubledQuotes, quote, readFrom_inside quote, ih, Function.comp_def]

/-- A field without special characters is read as it stands. -/
theorem readFrom_bare {field : List Char} (plain : ∀ c ∈ field, isCsvSpecial c = false) :
    readFrom .bare (field ++ rest) = (readFrom .bare rest).map (.push field) := by
  induction field with
  | nil => simp
  | cons c field ih =>
    rw [List.cons_append, readFrom_plain (.inr rfl) (plain c List.mem_cons_self),
      ih fun c member => plain c (List.mem_cons_of_mem _ member), Option.map_map]
    simp [Function.comp_def]

/-- A field is read as it was before it was written. -/
theorem readFrom_csvField (field : String) (ends : EndsField rest) :
    readFrom .start ((csvField field).toList ++ rest) =
      (readFrom .start rest).map (.push field.toList) := by
  unfold csvField
  split
  case isTrue special =>
    rw [String.toList_ofList, List.append_assoc, List.cons_append, readFrom_opening,
      List.singleton_append, readFrom_doubledQuotes, ends .closed (by decide)]
  case isFalse plain =>
    have plain : ∀ c ∈ field.toList, isCsvSpecial c = false := by simpa using plain
    cases characters : field.toList with
    | nil => simp
    | cons c others =>
      rw [characters] at plain
      rw [List.cons_append, readFrom_plain (.inl rfl) (plain c List.mem_cons_self),
        readFrom_bare fun c member => plain c (List.mem_cons_of_mem _ member),
        ends .bare (by decide), Option.map_map]
      simp [Function.comp_def]

/-- The fields of a line are read as they were. -/
theorem readFrom_fields (field : String) (fields : List String) :
    readFrom .start
        ((String.intercalate "," ((field :: fields).map csvField)).toList ++ '\n' :: rest) =
      (readLines rest).map (CsvAhead.mk field.toList (fields.map String.toList)) := by
  induction fields generalizing field with
  | nil =>
    rw [List.map_singleton, String.intercalate_singleton,
      readFrom_csvField field (endsField_newline rest), readFrom_newline (by decide),
        Option.map_map]
    simp [Function.comp_def, CsvAhead.beforeLines, CsvAhead.push]
  | cons next others ih =>
    have line : (String.intercalate "," ((field :: next :: others).map csvField)).toList =
        (csvField field).toList ++
          ',' :: (String.intercalate "," ((next :: others).map csvField)).toList := by
      simp [String.intercalate_cons_cons]
    rw [line, List.append_assoc, List.cons_append, readFrom_csvField field (endsField_comma _),
      readFrom_comma (by decide), ih next, Option.map_map, Option.map_map]
    simp [Function.comp_def, CsvAhead.beforeComma, CsvAhead.push]

/-- A line is read as the record that it was written for, and the lines below it as they would be
    without it. -/
theorem readLines_csvLine (field : String) (fields : List String) :
    readLines ((csvLine (field :: fields)).toList ++ rest) =
      (readLines rest).map (((field :: fields).map String.toList) :: ·) := by
  have line : readFrom .start ((csvLine (field :: fields)).toList ++ rest) =
      (readLines rest).map (CsvAhead.mk field.toList (fields.map String.toList)) := by
    unfold csvLine
    split
    case isTrue empty =>
      cases empty
      have quotes : ("\"\"" ++ "\n" : String).toList ++ rest = '"' :: '"' :: '\n' :: rest := by simp
      rw [quotes, readFrom_opening, readFrom_closing, readFrom_newline (by decide)]
      rfl
    case isFalse filled =>
      rw [String.toList_append, List.append_assoc]
      exact readFrom_fields field fields
  have written : (csvLine (field :: fields)).toList ++ rest ≠ [] := by simp [csvLine]
  rw [readLines, if_neg written, line, Option.map_map]
  rfl

end

/-- **CSV texts decode.** What is written for some records is read as these records, whatever
    characters their fields hold. Only a record without any fields has no line of its own. -/
theorem readCsv_csvText {records : List (List String)} (filled : ∀ fields ∈ records, fields ≠ []) :
    readCsv (csvText records) = some records := by
  have read : readLines (csvText records).toList =
      some (records.map fun fields => fields.map String.toList) := by
    induction records with
    | nil => rfl
    | cons fields others ih =>
      obtain ⟨field, more, rfl⟩ := List.exists_cons_of_ne_nil (filled fields List.mem_cons_self)
      have text : csvText ((field :: more) :: others) =
          csvLine (field :: more) ++ csvText others := by
        simp [csvText, String.join_cons]
      rw [text, String.toList_append, readLines_csvLine,
        ih fun fields member => filled fields (List.mem_cons_of_mem _ member)]
      rfl
  rw [readCsv, read]
  simp [Function.comp_def]

example : readCsv (csvText [["a", "b\"c"], ["", "d,\n"], [""]]) =
    some [["a", "b\"c"], ["", "d,\n"], [""]] := by
  decide

end EmbeddingLatency.Report
