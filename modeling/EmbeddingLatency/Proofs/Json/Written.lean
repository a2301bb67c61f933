import EmbeddingLatency.Json.Reader
import EmbeddingLatency.Proofs.Json.Doubles

/-!
# Documents as they are written

`Written` is a document whose numbers are the tokens that stand in its text, so that reading it does
not depend on which double a token denotes. It is read by the same `tree` as `Value`, and its
scalars are read here.

`Reader.Takes` is what is proved of each reader: behind a gap it takes one certain text, whatever
follows, as long as that does not go on with a number.
-/

set_option autoImplicit false

namespace EmbeddingLatency.Json

/-- A document with its numbers as they are written. -/
inductive Written where
  | null
  | bool (b : Bool)
  | number (token : String)
  | text (s : String)
  | array (items : List Written)
  | object (members : List (String × Written))
  deriving Repr, Inhabited

namespace Written

/-- The value under a key of an object; of several members with this key the last one counts. -/
def get? (key : String) : Written → Option Written
  | .object members => (members.reverse.find? (·.1 = key)).map (·.2)
  | _ => none

/-- The number of members of an object. -/
def size : Written → Nat
  | .object members => members.length
  | _ => 0

/-- A natural number. -/
def count (n : Nat) : Written := .number (Decimal.digits n)

/-- A double: its token, and `null` where it is no number. -/
def figure (x : Float) : Written := if Decimal.isFinite x then .number (realText x) else .null

/-- The value of an option, `null` where there is none. -/
def ofOption {α : Type} (f : α → Written) : Option α → Written
  | none => .null
  | some a => f a

/-- A scalar that is no number. -/
def ofScalar? : Scalar → Option Written
  | .null => some .null
  | .bool b => some (.bool b)
  | .text s => some (.text s)
  | .number _ => none

/-- A number: the characters that are taken off the text. -/
def token : Reader Written where
  run text :=
    (numeral .truncated (skipGap text)).map fun (_, rest) =>
      (.number (String.ofList ((skipGap text).take ((skipGap text).length - rest.length))), rest)
  shorter := by
    intro text value rest h
    obtain ⟨⟨n, tail⟩, read, result⟩ := map_eq_ok h
    cases result
    exact Nat.lt_of_lt_of_le (length_numeral read) (length_skipGap_le text)

/-- A value without parts, with its number as it is written. -/
def scalar : Reader Written where
  run text :=
    match (skipGap text).head? with
    | none => .error .truncated
    | some c =>
      if c = '-' ∨ c.isDigit then token.run text else (scalarOf ofScalar?).run text
  shorter := by
    intro text value rest h
    split at h
    · cases h
    · split at h
      · exact token.shorter h
      · exact (scalarOf ofScalar?).shorter h

/-- Reads a document. -/
def parse (text : String) : Except ReadFault Written :=
  decode (tree scalar .array .object maxDepth) text

end Written

/-- What a number is written as. -/
def Number.written : Number → Written
  | .natural n => .count n
  | .negative n => .number ("-" ++ Decimal.digits n)
  | .real x => .figure x

mutual

/-- What a document is written as. -/
def Value.written : Value → Written
  | .null => .null
  | .bool b => .bool b
  | .number n => n.written
  | .text s => .text s
  | .array items => .array (writtenItems items)
  | .object members => .object (writtenMembers members)

/-- What the items of an array are written as. -/
def writtenItems : List Value → List Written
  | [] => []
  | v :: rest => v.written :: writtenItems rest

/-- What the members of an object are written as. -/
def writtenMembers : List (String × Value) → List (String × Written)
  | [] => []
  | (k, v) :: rest => (k, v.written) :: writtenMembers rest

end

@[simp]
theorem writtenItems_eq_map (vs : List Value) : writtenItems vs = vs.map Value.written := by
  induction vs with
  | nil => rfl
  | cons v vs ih => rw [writtenItems, ih, List.map_cons]

@[simp]
theorem writtenMembers_eq_map (ms : List (String × Value)) :
    writtenMembers ms = ms.map fun m => (m.1, m.2.written) := by
  induction ms with
  | nil => rfl
  | cons m ms ih => rw [writtenMembers, ih, List.map_cons]

theorem skipGap_cons {c : Char} (solid : isGap c = false) (rest : List Char) :
    skipGap (c :: rest) = c :: rest := by simp [skipGap, solid]

/-- The reader takes the text off the front of whatever does not go on with a number, behind a gap,
    and gives `a` for it. -/
def Reader.Takes {α : Type} (r : Reader α) (text : List Char) (a : α) : Prop :=
  ∀ input rest, EndsNumber rest → skipGap input = text ++ rest → r.run input = .ok (a, rest)

section Scalars

theorem scalarFrom_text {text body : List Char} (spells : SpellsText text body) (rest : List Char) :
    scalarFrom '"' (body ++ ['"'] ++ rest) = .ok (.text (String.ofList text), rest) := by
  rw [List.append_assoc, List.singleton_append, scalarFrom, spells.textBody_append]
  rfl

theorem toList_quotedText (s : String) :
    (quotedText s).toList = '"' :: (s.toList.flatMap escaped ++ ['"']) := by
  simp [quotedText]

/-- A scalar of the wanted kind is taken. -/
theorem scalarOf_takes {α : Type} {f : Scalar → Option α} {c : Char} {tail : List Char} {s : Scalar}
    {a : α} (read : ∀ rest, scalarFrom c (tail ++ rest) = .ok (s, rest)) (kind : f s = some a) :
    Reader.Takes (scalarOf f) (c :: tail) a := by
  intro input rest _ found
  simp only [scalarOf, Text.Reader.refine, Json.scalar, found, List.cons_append, read, kind]

/-- A number is taken as its token. -/
theorem Written.token_takes {text : String} (numeral : IsNumeral text.toList) :
    Reader.Takes Written.token text.toList (.number text) := by
  intro input rest ends found
  obtain ⟨n, read⟩ : ∃ n, Json.numeral .truncated (text.toList ++ rest) = .ok (n, rest) :=
    numeral_append numeral ends
  simp [Written.token, found, read, Except.map]

/-- Texts that begin with neither a digit nor a minus sign are no numbers. -/
theorem Written.scalar_takes {c : Char} {tail : List Char} {s : Scalar} {w : Written}
    (first : ¬(c = '-' ∨ c.isDigit = true))
    (read : ∀ rest, scalarFrom c (tail ++ rest) = .ok (s, rest)) (kind : ofScalar? s = some w) :
    Reader.Takes Written.scalar (c :: tail) w := by
  intro input rest ends found
  have front : (skipGap input).head? = some c := by rw [found]; rfl
  have taken := scalarOf_takes read kind input rest ends found
  simp only [Written.scalar, front, if_neg first, taken]

/-- Numbers are taken as their tokens. -/
theorem Written.scalar_takes_number {text : String} (numeral : IsNumeral text.toList) :
    Reader.Takes Written.scalar text.toList (.number text) := by
  intro input rest ends found
  obtain ⟨c, others, characters, first⟩ := numeral.exists_cons
  have front : (skipGap input).head? = some c := by rw [found, characters]; rfl
  have read := token_takes numeral input rest ends found
  simp only [Written.scalar, front, if_pos first, read]

theorem isNumber_natural (n : Nat) (negative : Bool) :
    IsNumber (Decimal.sign negative ++ Decimal.digits n).toList := by
  simpa [Decimal.digits] using (isWhole_toDigits n).isUnsigned.isNumber negative

end Scalars

/-- A value without parts. -/
def Value.IsScalar : Value → Prop
  | .array _ => False
  | .object _ => False
  | _ => True

@[simp] theorem Value.isScalar_text (s : String) : (Value.text s).IsScalar := trivial

@[simp] theorem Value.isScalar_bool (b : Bool) : (Value.bool b).IsScalar := trivial

@[simp] theorem Value.isScalar_nat (n : Nat) : (Value.nat n).IsScalar := trivial

@[simp] theorem Value.isScalar_real (x : Float) : (Value.real x).IsScalar := trivial

@[simp]
theorem Value.isScalar_ofOption {α : Type} {f : α → Value} (each : ∀ a, (f a).IsScalar)
    (value : Option α) : (Value.ofOption f value).IsScalar := by
  cases value with
  | none => trivial
  | some a => exact each a

/-- A document without parts. -/
def Written.IsScalar : Written → Prop
  | .array _ => False
  | .object _ => False
  | _ => True

theorem Value.IsScalar.written {v : Value} (isScalar : v.IsScalar) : v.written.IsScalar := by
  cases v with
  | number n =>
    cases n with
    | real x =>
      rw [Value.written, Number.written, Written.figure]
      split <;> trivial
    | _ => trivial
  | array items => exact isScalar.elim
  | object members => exact isScalar.elim
  | _ => trivial

end EmbeddingLatency.Json
