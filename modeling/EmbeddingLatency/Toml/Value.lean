/-!
# TOML values

A table remembers how it came to be, since that decides which later lines may still add to it.
-/

set_option autoImplicit false

namespace EmbeddingLatency.Toml

/-- How a table came to be. -/
inductive Origin where
  /-- Written between braces, and complete with that. -/
  | braces
  /-- Written as a header of its own. -/
  | header
  /-- Named on the way to the table of a header. -/
  | passage
  /-- Named on the way to a value. -/
  | dotted
  deriving DecidableEq, Repr

/-- A value of a document. Moments keep the text in which they are written. -/
inductive Value where
  | text (s : String)
  | integer (n : Int)
  | float (x : Float)
  | bool (b : Bool)
  | moment (written : String)
  | array (items : List Value)
  | table (origin : Origin) (entries : List (String × Value))
  /-- The tables of headers in double brackets, the last one first. -/
  | tables (reversed : List (List (String × Value)))
  deriving Repr, Inhabited

/-- The entries of a table. -/
abbrev Entries := List (String × Value)

/-- The value under a key. -/
def Entries.get? (entries : Entries) (key : String) : Option Value :=
  (entries.find? (·.1 = key)).map (·.2)

/-- The entries with another value under a key, or with one more entry. -/
def Entries.put (entries : Entries) (key : String) (value : Value) : Entries :=
  if entries.any (·.1 = key) then
    entries.map fun entry => if entry.1 = key then (key, value) else entry
  else entries ++ [(key, value)]

end EmbeddingLatency.Toml
