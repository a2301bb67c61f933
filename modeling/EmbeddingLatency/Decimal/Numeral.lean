import EmbeddingLatency.Decimal.Binary

/-!
# Reading numerals

`unsigned?` reads a whole number and `float?` a floating-point numeral, each from a complete text:
a sign in front, and for floating-point numbers the words for infinity and not-a-number in any
case, a point with digits on at least one side of it, and an exponent.
-/

set_option autoImplicit false

namespace EmbeddingLatency.Decimal

/-- The value of a decimal digit. -/
def digitValue (c : Char) : Nat := c.toNat - '0'.toNat

/-- The number that a list of decimal digits stands for. -/
def valueOf (digits : List Char) : Nat := digits.foldl (fun n c => 10 * n + digitValue c) 0

/-- The sign of a numeral and the rest of it. -/
def splitSign : List Char → Bool × List Char
  | '-' :: rest => (true, rest)
  | '+' :: rest => (false, rest)
  | text => (false, text)

/-- Nothing is lost in front of what is behind the sign. -/
theorem exists_sign (text : List Char) :
    ∃ sign ∈ [[], ['+'], ['-']], text = sign ++ (splitSign text).2 := by
  unfold splitSign
  split
  case h_1 rest => exact ⟨['-'], by decide, rfl⟩
  case h_2 rest => exact ⟨['+'], by decide, rfl⟩
  case h_3 => exact ⟨[], by decide, rfl⟩

/-- A sign is split off a text that begins with none itself. -/
theorem splitSign_append {sign text : List Char} (signed : sign ∈ [[], ['+'], ['-']])
    (unsigned : ∀ c ∈ text.head?, c ≠ '+' ∧ c ≠ '-') : (splitSign (sign ++ text)).2 = text := by
  simp only [List.mem_cons, List.not_mem_nil, or_false] at signed
  rcases signed with rfl | rfl | rfl
  · rw [List.nil_append]
    unfold splitSign
    split
    case h_1 rest => exact absurd rfl (unsigned '-' rfl).2
    case h_2 rest => exact absurd rfl (unsigned '+' rfl).1
    case h_3 => rfl
  · rfl
  · rfl

/-- A whole number of at most `bound`: digits, with a plus sign allowed in front. -/
def unsigned? (bound : Nat) (text : List Char) : Option Nat :=
  let digits := match text with
    | '+' :: rest => rest
    | _ => text
  if digits ≠ [] ∧ digits.all Char.isDigit ∧ valueOf digits ≤ bound then some (valueOf digits)
  else none

/-- The largest number of 64 bits. -/
def maxWord : Nat := Nat.pow 2 64 - 1

/-- The exponent after a numeral's significand: nothing, or `e` and a signed number. -/
def exponent? : List Char → Option Int
  | [] => some 0
  | c :: rest =>
    let (negative, digits) := splitSign rest
    if (c = 'e' ∨ c = 'E') ∧ digits ≠ [] ∧ digits.all Char.isDigit then
      some (if negative then -(valueOf digits : Int) else valueOf digits)
    else none

/-- An unsigned decimal numeral: its digits and the exponent of the last of them. -/
def decimal? (text : List Char) : Option (Nat × Int) :=
  let whole := text.takeWhile Char.isDigit
  let rest := text.dropWhile Char.isDigit
  let (fraction, rest) := match rest with
    | '.' :: tail => (tail.takeWhile Char.isDigit, tail.dropWhile Char.isDigit)
    | _ => ([], rest)
  if whole = [] ∧ fraction = [] then none
  else (exponent? rest).map fun e => (valueOf (whole ++ fraction), e - fraction.length)

/-- The double that a complete numeral stands for. -/
def float? (text : List Char) : Option Float :=
  let (negative, magnitude) := splitSign text
  let word := String.ofList (magnitude.map Char.toLower)
  if word = "inf" ∨ word = "infinity" then
    some (if negative then -(1.0 / 0.0) else 1.0 / 0.0)
  else if word = "nan" then some (0.0 / 0.0)
  else (decimal? magnitude).map fun d => ofDigits negative d.1 d.2

end EmbeddingLatency.Decimal
