import EmbeddingLatency.Toml.Literal

/-!
# TOML documents

A document is read in two steps: `statements` reads the lines, and `Table.ofStatements` puts the
tables together, where a key may be defined only once and a table that is complete may not be added
to. Arrays and inline tables may nest up to `maxNesting`, and a dotted key has fewer than that many
parts.
-/

set_option autoImplicit false

namespace EmbeddingLatency.Toml

/-- The limit of nesting. -/
def maxNesting : Nat := 80

/-- Spaces and tabs. -/
def isSpace (c : Char) : Bool := c == ' ' || c == '\t'

/-- The text without the spaces in front of it. -/
def skipSpaces (text : List Char) : List Char := text.dropWhile isSpace

/-- The text without the comment in front of it. -/
def skipComment : List Char → List Char
  | '#' :: rest => rest.dropWhile isPlain
  | text => text

/-- The end of a statement's line: spaces, a comment, and a line end or the end of the text. -/
def endOfLine (text : List Char) : Option (List Char) :=
  match skipComment (skipSpaces text) with
  | [] => some []
  | rest => lineEnd? rest

/-- The text without the white space, line ends and comments in front of it. -/
def skipGaps : (bound : Nat) → List Char → List Char
  | 0, text => text
  | bound + 1, text =>
    let text := skipSpaces text
    match lineEnd? (skipComment text) with
    | some rest => skipGaps bound rest
    | none => text

/-- Characters of keys without quotes. -/
def isBare (c : Char) : Bool := c.isAlphanum || c == '-' || c == '_'

/-- One part of a key. -/
def keyPart : Read String := fun text =>
  match text with
  | '"' :: _ => shortString text
  | '\'' :: _ => shortString text
  | _ =>
    let bare := text.takeWhile isBare
    if bare = [] then none else some (String.ofList bare, text.dropWhile isBare)

/-- The parts of a dotted key, with spaces around each of them. -/
def keyParts : (bound : Nat) → Read (List String)
  | 0, _ => none
  | bound + 1, text => do
    let (part, rest) ← keyPart (skipSpaces text)
    match skipSpaces rest with
    | '.' :: rest => (keyParts bound rest).map fun (parts, rest) => (part :: parts, rest)
    | rest => some ([part], rest)

/-- A key, as the parts on the way and the last part. -/
def key : Read (List String × String) := fun text => do
  let (parts, rest) ← keyParts (maxNesting - 1) text
  some ((parts.dropLast, parts.getLastD ""), rest)

/-- The entries with `value` under a dotted key. Tables on the way are made where they are missing;
    a table that was written as a whole, or named by headers only, is not added to. -/
def Entries.assign (last : String) (value : Value) : (path : List String) → (dotted : Bool) →
    Entries → Option Entries
  | [], dotted, entries =>
    if dotted ∨ (entries.get? last).isSome then none else some (entries.put last value)
  | step :: path, _, entries => do
    let inner ← match entries.get? step with
      | none => (assign last value path false []).map (.table .dotted ·)
      | some (.table .dotted inner) => (assign last value path false inner).map (.table .dotted ·)
      | some (.table .passage inner) =>
        (assign last value path path.isEmpty inner).map (.table .passage ·)
      | some (.tables (newest :: older)) =>
        (assign last value path path.isEmpty newest).map fun newest => .tables (newest :: older)
      | _ => none
    some (entries.put step inner)

/-- A value, inside of `depth` open brackets; `bound` is at least the length of the text. -/
def value : (bound : Nat) → (depth : Nat) → Read Value
  | 0, _, _ => none
  | bound + 1, depth, text =>
    match text with
    | [] => none
    | c :: rest =>
      if c = '"' ∨ c = '\'' then (string text).map fun (s, rest) => (.text s, rest)
      else if c = '[' then
        if depth + 1 < maxNesting then
          (items bound (depth + 1) (skipGaps bound rest)).map fun (vs, rest) => (.array vs, rest)
        else none
      else if c = '\x7b' then
        if depth + 1 < maxNesting then
          match skipSpaces rest with
          | '\x7d' :: rest => some (.table .braces [], rest)
          | rest =>
            (pairs bound (depth + 1) [] rest).map fun (es, rest) => (.table .braces es, rest)
        else none
      else if c = 't' then
        if ['t', 'r', 'u', 'e'].isPrefixOf text then some (.bool true, text.drop 4) else none
      else if c = 'f' then
        if ['f', 'a', 'l', 's', 'e'].isPrefixOf text then some (.bool false, text.drop 5) else none
      else
        match moment text with
        | some (m, rest) => some (.moment m, rest)
        | none =>
          match float text with
          | some (x, rest) => some (.float x, rest)
          | none => (integer text).map fun (n, rest) => (.integer n, rest)
where
  /-- The items of an array up to its closing bracket; a comma may follow the last one. -/
  items : (bound : Nat) → (depth : Nat) → Read (List Value)
    | 0, _, _ => none
    | bound + 1, depth, text =>
      match text with
      | ']' :: rest => some ([], rest)
      | _ => do
        let (v, rest) ← value bound depth text
        match skipGaps bound rest with
        | ']' :: rest => some ([v], rest)
        | ',' :: rest =>
          (items bound depth (skipGaps bound rest)).map fun (vs, rest) => (v :: vs, rest)
        | _ => none
  /-- The pairs of an inline table up to its closing brace; no comma follows the last one. -/
  pairs : (bound : Nat) → (depth : Nat) → Entries → Read Entries
    | 0, _, _, _ => none
    | bound + 1, depth, entries, text => do
      let ((path, last), rest) ← key text
      let rest ← exactly '=' rest
      let (v, rest) ← value bound depth (skipSpaces rest)
      let entries ← entries.assign last v path false
      match skipSpaces rest with
      | '\x7d' :: rest => some (entries, rest)
      | ',' :: rest => pairs bound depth entries rest
      | _ => none

/-- A line of a document. -/
inductive Statement where
  | assign (path : List String) (last : String) (value : Value)
  | header (path : List String) (last : String)
  /-- A header in double brackets. -/
  | arrayHeader (path : List String) (last : String)

/-- The statement at the front of a text, up to the end of its line. -/
def statement : Read Statement := fun text =>
  match text with
  | '[' :: '[' :: rest => do
    let ((path, last), rest) ← key rest
    let rest ← exactly ']' rest
    let rest ← exactly ']' rest
    let rest ← endOfLine rest
    some (.arrayHeader path last, rest)
  | '[' :: rest => do
    let ((path, last), rest) ← key rest
    let rest ← exactly ']' rest
    let rest ← endOfLine rest
    some (.header path last, rest)
  | _ => do
    let ((path, last), rest) ← key text
    let rest ← exactly '=' rest
    let (v, rest) ← value (rest.length + 1) 0 (skipSpaces rest)
    let rest ← endOfLine rest
    some (.assign path last v, rest)

/-- The statements of a text; `bound` is at least its length. -/
def statements : (bound : Nat) → List Char → Option (List Statement)
  | 0, _ => none
  | bound + 1, text =>
    match skipGaps (text.length + 1) text with
    | [] => some []
    | '#' :: rest => if rest.all isPlain then some [] else none
    | text => do
      let (s, rest) ← statement text
      let more ← statements bound rest
      some (s :: more)

/-- The entries with what `f` makes of the table at the end of a path. Tables on the way are made
    where they are missing, and of tables in an array the newest counts. -/
def Entries.within (f : Entries → Option Entries) : (path : List String) → Entries → Option Entries
  | [], entries => f entries
  | step :: path, entries => do
    let inner ← match entries.get? step with
      | none => (within f path []).map (.table .passage ·)
      | some (.table .braces _) => none
      | some (.table origin inner) => (within f path inner).map (.table origin ·)
      | some (.tables (newest :: older)) =>
        (within f path newest).map fun newest => .tables (newest :: older)
      | _ => none
    some (entries.put step inner)

/-- The document after one more statement; `current` is the table that assignments go to. -/
def Statement.run (s : Statement) (current : List String) (root : Entries) :
    Option (List String × Entries) :=
  match s with
  | .assign path last v =>
    (root.within (fun entries => entries.assign last v path false) current).map ((current, ·))
  | .header path last =>
    (root.within (fun entries =>
      match entries.get? last with
      | none => some (entries.put last (.table .header []))
      | some (.table .passage inner) => some (entries.put last (.table .header inner))
      | _ => none) path).map ((path ++ [last], ·))
  | .arrayHeader path last =>
    (root.within (fun entries =>
      match entries.get? last with
      | none => some (entries.put last (.tables [[]]))
      | some (.tables reversed) => some (entries.put last (.tables ([] :: reversed)))
      | _ => none) path).map ((path ++ [last], ·))

/-- The table that statements describe. -/
def Entries.ofStatements (statements : List Statement) : Option Entries :=
  let run (place : List String × Entries) (s : Statement) : Option (List String × Entries) :=
    s.run place.1 place.2
  (statements.foldlM run ([], [])).map (·.2)

/-- Reads a document; a byte order mark in front of it is dropped. -/
def parse (text : String) : Option Entries :=
  let chars := match text.toList with
    | '\uFEFF' :: rest => rest
    | chars => chars
  (statements (chars.length + 1) chars).bind Entries.ofStatements

end EmbeddingLatency.Toml
