import EmbeddingLatency.Toml.Value
import EmbeddingLatency.Decimal.Numeral

/-!
# Literals of TOML

Strings, numbers, and moments. Strings are read by a small automaton: `Scan` says what the
characters read so far require of the next one, and `step` reads one character. The other literals
are read by plain functions that take a text and return the value and what follows it.
-/

set_option autoImplicit false

namespace EmbeddingLatency.Toml

open EmbeddingLatency.Decimal (valueOf ofDigits)

/-- A value from the front of a text, and the rest of the text. -/
abbrev Read (α : Type) := List Char → Option (α × List Char)

/-- May the character stand for itself, the two quotes and the backslash aside? -/
def isPlain (c : Char) : Bool := c == '\t' || (0x20 ≤ c.toNat && c.toNat ≠ 0x7F)

/-- The four kinds of strings: with or without escapes, on one line or on several. -/
structure Style where
  quote : Char
  escapes : Bool
  lines : Bool
  deriving Repr

/-- What the characters of a string that have been read require of the next one. -/
inductive Scan where
  | plain
  | escape
  /-- This many hexadecimal digits are missing from a code point that is so far `value`. -/
  | code (missing value : Nat)
  /-- A carriage return has been read. -/
  | lineEnd
  /-- A backslash and spaces have been read; the line has to end. -/
  | lastSpaces
  /-- A backslash at a line end has been read; white space is dropped. -/
  | nextSpaces
  /-- A carriage return has been read behind a backslash. -/
  | droppedLineEnd
  /-- Quotes have been read that may close the string. -/
  | quotes (count : Nat)
  deriving DecidableEq, Repr

/-- The character that an escape of one letter stands for. -/
def shortEscape? : Char → Option Char
  | 'b' => some '\x08'
  | 't' => some '\t'
  | 'n' => some '\n'
  | 'f' => some '\x0c'
  | 'r' => some '\r'
  | '"' => some '"'
  | '\\' => some '\\'
  | _ => none

/-- The value of a digit in a base up to sixteen. -/
def digitIn? (base : Nat) (c : Char) : Option Nat :=
  let n :=
    if c.isDigit then c.toNat - '0'.toNat
    else if 'a' ≤ c ∧ c ≤ 'f' then c.toNat - 'a'.toNat + 10
    else if 'A' ≤ c ∧ c ≤ 'F' then c.toNat - 'A'.toNat + 10
    else 16
  if n < base then some n else none

/-- One character between the quotes, where nothing is pending. -/
def plainStep (style : Style) (c : Char) : Option (List Char × Scan) :=
  if c = style.quote then some ([], .quotes 1)
  else if c = '\\' ∧ style.escapes then some ([], .escape)
  else if c = '\n' ∧ style.lines then some (['\n'], .plain)
  else if c = '\r' ∧ style.lines then some ([], .lineEnd)
  else if isPlain c then some ([c], .plain)
  else none

/-- One character of a string: what it adds to the value, and what comes next. -/
def step (style : Style) (scan : Scan) (c : Char) : Option (List Char × Scan) :=
  match scan with
  | .plain => plainStep style c
  | .escape =>
    match shortEscape? c with
    | some d => some ([d], .plain)
    | none =>
      if c = 'u' then some ([], .code 4 0)
      else if c = 'U' then some ([], .code 8 0)
      else if style.lines ∧ (c = ' ' ∨ c = '\t') then some ([], .lastSpaces)
      else if style.lines ∧ c = '\n' then some ([], .nextSpaces)
      else if style.lines ∧ c = '\r' then some ([], .droppedLineEnd)
      else none
  | .code missing value =>
    match digitIn? 16 c with
    | none => none
    | some d =>
      let value := 16 * value + d
      if 1 < missing then some ([], .code (missing - 1) value)
      else if value.isValidChar then some ([Char.ofNat value], .plain)
      else none
  | .lineEnd => if c = '\n' then some (['\n'], .plain) else none
  | .lastSpaces =>
    if c = ' ' ∨ c = '\t' then some ([], .lastSpaces)
    else if c = '\n' then some ([], .nextSpaces)
    else if c = '\r' then some ([], .droppedLineEnd)
    else none
  | .droppedLineEnd => if c = '\n' then some ([], .nextSpaces) else none
  | .nextSpaces =>
    if c = ' ' ∨ c = '\t' ∨ c = '\n' then some ([], .nextSpaces)
    else if c = '\r' then some ([], .droppedLineEnd)
    else plainStep style c
  | .quotes count =>
    if c = style.quote then some ([], .quotes (count + 1))
    else (plainStep style c).map fun (out, scan) => (List.replicate count style.quote ++ out, scan)

/-- Is the string closed if the quotes read so far are not followed by one more? Up to two quotes in
    front of the closing ones belong to the value. -/
def closes (style : Style) (count : Nat) (next : Option Char) : Bool :=
  if style.lines then count == 5 || (3 ≤ count && next != some style.quote) else true

/-- The characters of a string up to its closing quotes. -/
def stringBody (style : Style) : Scan → Read (List Char)
  | .quotes count, text =>
    if closes style count text.head? then
      some (List.replicate (if style.lines then count - 3 else 0) style.quote, text)
    else
      match text with
      | [] => none
      | c :: rest =>
        match step style (.quotes count) c with
        | none => none
        | some (out, scan) => (stringBody style scan rest).map fun (s, rest) => (out ++ s, rest)
  | _, [] => none
  | scan, c :: rest =>
    match step style scan c with
    | none => none
    | some (out, scan) => (stringBody style scan rest).map fun (s, rest) => (out ++ s, rest)

/-- A line end at the front of a text. -/
def lineEnd? : List Char → Option (List Char)
  | '\n' :: rest => some rest
  | '\r' :: '\n' :: rest => some rest
  | _ => none

/-- A string on one line. -/
def shortString : Read String := fun text =>
  match text with
  | '"' :: rest =>
    (stringBody ⟨'"', true, false⟩ .plain rest).map fun (s, rest) => (String.ofList s, rest)
  | '\'' :: rest =>
    (stringBody ⟨'\'', false, false⟩ .plain rest).map fun (s, rest) => (String.ofList s, rest)
  | _ => none

/-- A string of either kind; a line end right behind three opening quotes is dropped. -/
def string : Read String := fun text =>
  let long (quote : Char) (escapes : Bool) (rest : List Char) : Option (String × List Char) :=
    (stringBody ⟨quote, escapes, true⟩ .plain ((lineEnd? rest).getD rest)).map fun (s, rest) =>
      (String.ofList s, rest)
  match text with
  | '"' :: '"' :: '"' :: rest => long '"' true rest
  | '\'' :: '\'' :: '\'' :: rest => long '\'' false rest
  | _ => shortString text

/-- Does the text begin with a digit of the base? -/
def startsWithDigit (base : Nat) (text : List Char) : Bool :=
  (text.head?.bind (digitIn? base)).isSome

/-- Digits in a base, with single underscores between two of them. -/
def digitRun (base : Nat) : Read (List Char)
  | [] => none
  | c :: '_' :: rest =>
    if (digitIn? base c).isSome then (digitRun base rest).map fun (ds, rest) => (c :: ds, rest)
    else none
  | c :: rest =>
    if (digitIn? base c).isNone then none
    else if startsWithDigit base rest then
      (digitRun base rest).map fun (ds, rest) => (c :: ds, rest)
    else some ([c], rest)

/-- The value of digits in a base. -/
def valueIn (base : Nat) (ds : List Char) : Nat :=
  ds.foldl (fun n c => base * n + (digitIn? base c).getD 0) 0

/-- The digits of a decimal integer without a sign: no zero in front of another digit. -/
def wholeDigits : Read (List Char)
  | '0' :: rest => some (['0'], rest)
  | text => digitRun 10 text

/-- An exponent: `e`, a sign, digits. -/
def exponent : Read Int
  | [] => none
  | c :: rest =>
    if c = 'e' ∨ c = 'E' then
      let (negative, tail) := Decimal.splitSign rest
      (digitRun 10 tail).map fun (ds, rest) =>
        (if negative then -(valueOf ds : Int) else valueOf ds, rest)
    else none

/-- A floating-point number: infinity, not-a-number, or digits with a fraction or an exponent. Plus
    infinity cannot be reached by digits. -/
def float : Read Float := fun text =>
  let (negative, magnitude) := Decimal.splitSign text
  match magnitude with
  | 'i' :: 'n' :: 'f' :: rest => some (if negative then -(1.0 / 0.0) else 1.0 / 0.0, rest)
  | 'n' :: 'a' :: 'n' :: rest => some (0.0 / 0.0, rest)
  | _ => do
    let (whole, rest) ← wholeDigits magnitude
    let (fraction, rest) ← match rest with
      | '.' :: tail => (digitRun 10 tail).map fun (ds, rest) => (some ds, rest)
      | _ => some (none, rest)
    let exponent? := exponent rest
    let startsExponent := rest.head? = some 'e' ∨ rest.head? = some 'E'
    if startsExponent ∧ exponent?.isNone then none
    else if fraction.isNone ∧ exponent?.isNone then none
    else
      let ds := fraction.getD []
      let (e, rest) := exponent?.getD (0, rest)
      let x := ofDigits negative (valueOf (whole ++ ds)) (e - ds.length)
      if x == 1.0 / 0.0 then none else some (x, rest)

/-- A whole number of 64 bits with a sign; a base other than ten is said by two characters in front
    of the digits and goes without a sign. -/
def integer : Read Int := fun text =>
  let inBase (base : Nat) (rest : List Char) : Option (Int × List Char) := do
    let (ds, rest) ← digitRun base rest
    if valueIn base ds < Nat.pow 2 63 then some (valueIn base ds, rest) else none
  match text with
  | '0' :: 'x' :: rest => inBase 16 rest
  | '0' :: 'o' :: rest => inBase 8 rest
  | '0' :: 'b' :: rest => inBase 2 rest
  | _ => do
    let (negative, magnitude) := Decimal.splitSign text
    let (ds, rest) ← wholeDigits magnitude
    let n : Int := if negative then -(valueOf ds : Int) else valueOf ds
    if -(Nat.pow 2 63) ≤ n ∧ n < Nat.pow 2 63 then some (n, rest) else none

/-- Exactly `count` digits whose value lies between two bounds. -/
def digitsBetween (count low high : Nat) : Read Nat := fun text =>
  let ds := text.take count
  if ds.length = count ∧ ds.all Char.isDigit ∧ low ≤ valueOf ds ∧ valueOf ds ≤ high then
    some (valueOf ds, text.drop count)
  else none

/-- The character `c` at the front of a text. -/
def exactly (c : Char) : List Char → Option (List Char)
  | [] => none
  | d :: rest => if c = d then some rest else none

/-- The number of days of a month. -/
def daysIn (year month : Nat) : Nat :=
  if month = 2 then
    if year % 4 = 0 ∧ (year % 100 ≠ 0 ∨ year % 400 = 0) then 29 else 28
  else if month ∈ [4, 6, 9, 11] then 30 else 31

/-- A date; what follows it is returned. -/
def date (text : List Char) : Option (List Char) := do
  let (year, text) ← digitsBetween 4 0 9999 text
  let text ← exactly '-' text
  let (month, text) ← digitsBetween 2 1 12 text
  let text ← exactly '-' text
  let (_, text) ← digitsBetween 2 1 (daysIn year month) text
  some text

/-- A time of day; what follows it is returned. -/
def time (text : List Char) : Option (List Char) := do
  let (_, text) ← digitsBetween 2 0 23 text
  let text ← exactly ':' text
  let (_, text) ← digitsBetween 2 0 59 text
  let text ← exactly ':' text
  let (_, text) ← digitsBetween 2 0 60 text
  match text with
  | '.' :: rest =>
    let tail := rest.dropWhile Char.isDigit
    some (if tail.length < rest.length then tail else text)
  | _ => some text

/-- The distance from universal time; what follows it is returned. -/
def offset (text : List Char) : Option (List Char) :=
  match text with
  | 'Z' :: rest => some rest
  | 'z' :: rest => some rest
  | c :: rest => do
    if c = '+' ∨ c = '-' then
      let (_, rest) ← digitsBetween 2 0 23 rest
      let rest ← exactly ':' rest
      let (_, rest) ← digitsBetween 2 0 59 rest
      some rest
    else none
  | [] => none

/-- A date, a time, or both with or without an offset. -/
def moment : Read String := fun text => do
  let rest ← match date text with
    | some afterDate =>
      let timed : Option (List Char) := match afterDate with
        | c :: rest => if c ∈ ['T', 't', ' '] then time rest else none
        | [] => none
      match timed with
      | some afterTime => some ((offset afterTime).getD afterTime)
      | none => some afterDate
    | none => time text
  some (String.ofList (text.take (text.length - rest.length)), rest)

end EmbeddingLatency.Toml
