import EmbeddingLatency.Json.Value
import EmbeddingLatency.Decimal.Shortest

/-!
# Writing JSON

Two layouts: `compact` without any space, and `pretty` with one member or item a line and two
spaces of indentation a level. Both write texts with the same escapes and doubles with the fewest
digits that read back: positional with at least one decimal place from `1e-5` up to below `1e16`,
with an exponent outside of that, and `null` for values that are no numbers.
-/

set_option autoImplicit false

namespace EmbeddingLatency.Json

open EmbeddingLatency.Decimal (Binary Scientific digits integer sign shortest)

/-- The exponents of the leading digit, from first to last, that are written without `e`. -/
def plainExponents : Int × Int := (-5, 15)

/-- The digits with a point behind the first of them, where more follow. -/
def withPoint : List Char → String
  | [] => ""
  | [d] => String.singleton d
  | d :: rest => String.ofList (d :: '.' :: rest)

/-- A positive decimal, positional or with an exponent. -/
def scientificText (d : Scientific) : String :=
  let ds := Nat.toDigits 10 d.digits
  let leading : Int := d.exponent + ds.length - 1
  if plainExponents.1 ≤ leading ∧ leading ≤ plainExponents.2 then
    if leading < 0 then
      "0." ++ String.ofList (List.replicate (-leading - 1).toNat '0' ++ ds)
    else if 0 ≤ d.exponent then
      String.ofList (ds ++ List.replicate d.exponent.toNat '0') ++ ".0"
    else
      let whole := (leading + 1).toNat
      String.ofList (ds.take whole) ++ "." ++ String.ofList (ds.drop whole)
  else
    withPoint ds ++ "e" ++ (if 0 < leading then "+" else "") ++ integer leading

/-- The token of a double. -/
def realText (x : Float) : String :=
  match Binary.ofFloat x with
  | .nan => "null"
  | .infinite _ => "null"
  | .finite negative m q =>
    sign negative ++ if m = 0 then "0.0" else scientificText (shortest m q)

/-- The token of a number. -/
def Number.render : Number → String
  | .natural n => digits n
  | .negative n => "-" ++ digits n
  | .real x => realText x

/-- A hexadecimal digit in lower case. -/
def hexDigit (n : Nat) : Char := (Nat.toDigits 16 (n % 16)).headD '0'

/-- One character inside a text: quotes, backslashes and control characters are escaped. -/
def escaped (c : Char) : List Char :=
  match c with
  | '"' => ['\\', '"']
  | '\\' => ['\\', '\\']
  | '\x08' => ['\\', 'b']
  | '\x0c' => ['\\', 'f']
  | '\n' => ['\\', 'n']
  | '\r' => ['\\', 'r']
  | '\t' => ['\\', 't']
  | c =>
    if c.toNat < 0x20 then ['\\', 'u', '0', '0', hexDigit (c.toNat / 16), hexDigit c.toNat]
    else [c]

/-- A text in quotes. -/
def quotedText (s : String) : String :=
  "\"" ++ String.ofList (s.toList.flatMap escaped) ++ "\""

mutual

/-- A document without any space. -/
def Value.compact : Value → String
  | .null => "null"
  | .bool b => if b then "true" else "false"
  | .number n => n.render
  | .text s => quotedText s
  | .array items => "[" ++ compactItems items ++ "]"
  | .object members => "\x7b" ++ compactMembers members ++ "\x7d"

/-- The items of an array, with commas between them. -/
def compactItems : List Value → String
  | [] => ""
  | [v] => v.compact
  | v :: rest => v.compact ++ "," ++ compactItems rest

/-- The members of an object, with commas between them. -/
def compactMembers : List (String × Value) → String
  | [] => ""
  | [(k, v)] => quotedText k ++ ":" ++ v.compact
  | (k, v) :: rest => quotedText k ++ ":" ++ v.compact ++ "," ++ compactMembers rest

end

/-- The start of a line at a level of nesting. -/
def newLine (level : Nat) : String := "\n" ++ String.ofList (List.replicate (2 * level) ' ')

mutual

/-- A document with one item or member a line; empty arrays and objects stay on their line. -/
def Value.prettyAt (level : Nat) : Value → String
  | .null => "null"
  | .bool b => if b then "true" else "false"
  | .number n => n.render
  | .text s => quotedText s
  | .array [] => "[]"
  | .array (v :: rest) =>
    "[" ++ prettyItems (level + 1) (v :: rest) ++ newLine level ++ "]"
  | .object [] => "\x7b\x7d"
  | .object (m :: rest) =>
    "\x7b" ++ prettyMembers (level + 1) (m :: rest) ++ newLine level ++ "\x7d"

/-- The items of an array, each on a line of its own. -/
def prettyItems (level : Nat) : List Value → String
  | [] => ""
  | [v] => newLine level ++ v.prettyAt level
  | v :: rest => newLine level ++ v.prettyAt level ++ "," ++ prettyItems level rest

/-- The members of an object, each on a line of its own. -/
def prettyMembers (level : Nat) : List (String × Value) → String
  | [] => ""
  | [(k, v)] => newLine level ++ quotedText k ++ ": " ++ v.prettyAt level
  | (k, v) :: rest =>
    newLine level ++ quotedText k ++ ": " ++ v.prettyAt level ++ "," ++ prettyMembers level rest

end

/-- A document with one item or member a line. -/
def Value.pretty (v : Value) : String := v.prettyAt 0

end EmbeddingLatency.Json
