/-!
# JSON values

Numbers are kept in three kinds, because a reader of whole numbers must be able to tell `1` from
`1.0`. The members of an object keep their order.
-/

set_option autoImplicit false

namespace EmbeddingLatency.Json

/-- A number: a natural number, a negative whole number, or a double. -/
inductive Number where
  | natural (n : Nat)
  /-- The number `-n`. -/
  | negative (n : Nat)
  | real (x : Float)
  deriving Repr

/-- A JSON document. -/
inductive Value where
  | null
  | bool (b : Bool)
  | number (n : Number)
  | text (s : String)
  | array (items : List Value)
  | object (members : List (String × Value))
  deriving Repr, Inhabited

namespace Value

/-- A natural number as a value. -/
def nat (n : Nat) : Value := .number (.natural n)

/-- A double as a value. -/
def real (x : Float) : Value := .number (.real x)

/-- The value of an option, `null` where there is none. -/
def ofOption {α : Type} (f : α → Value) : Option α → Value
  | none => .null
  | some a => f a

/-- The members of an object. -/
def members? : Value → Option (List (String × Value))
  | .object members => some members
  | _ => none

/-- The value under a key; of several members with this key the last one counts. -/
def lastMember? (key : String) (members : List (String × Value)) : Option Value :=
  (members.reverse.find? (·.1 = key)).map (·.2)

/-- The value under a key of an object. -/
def get? (key : String) (v : Value) : Option Value := v.members?.bind (lastMember? key)

/-- The natural number that a value is. -/
def nat? : Value → Option Nat
  | .number (.natural n) => some n
  | _ => none

/-- The text that a value is. -/
def text? : Value → Option String
  | .text s => some s
  | _ => none

/-- The truth value that a value is. -/
def bool? : Value → Option Bool
  | .bool b => some b
  | _ => none

/-- The list that a value is. -/
def array? : Value → Option (List Value)
  | .array items => some items
  | _ => none

end Value

end EmbeddingLatency.Json
