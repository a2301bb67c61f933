/-!
# Control characters made visible

A log shows texts from elsewhere. A few control characters in them would be obeyed by a terminal
instead of shown, so a log writes their codes. All other characters, line feeds among them, stand
for themselves.
-/

set_option autoImplicit false

namespace EmbeddingLatency.Text

/-- A character as its code point in hexadecimal. -/
def codePoint (c : Char) : String :=
  "\\u\x7b" ++ String.ofList (Nat.toDigits 16 c.toNat) ++ "\x7d"

/-- The control characters of ASCII that a terminal obeys: bell, backspace, form feed, escape and
    delete, each with its code. -/
def terminalCodes : List (Char × String) :=
  [('\x07', "\\x07"), ('\x08', "\\x08"), ('\x0c', "\\x0c"), ('\x1b', "\\x1b"), ('\x7f', "\\x7f")]

/-- One character of a log. -/
def visibleChar (c : Char) : String :=
  match terminalCodes.find? (·.1 = c) with
  | some (_, code) => code
  | none => if 0x80 ≤ c.toNat ∧ c.toNat ≤ 0x9F then codePoint c else String.singleton c

/-- A text as a log shows it. -/
def visible (text : String) : String := String.join (text.toList.map visibleChar)

example : visible "\x1b[1m" = "\\x1b[1m" := by decide +kernel

end EmbeddingLatency.Text
