/-!
# Padding and tabs

Cells are padded to a width that counts code points. The width of a column is measured in bytes of
UTF-8, which is never less than the number of code points, so padding never has to cut. A width is
kept in 16 bits: whoever asks for a wider field gets none (`padRight?`, `padLeft?`). A tab takes up
a fixed number of spaces wherever it stands.
-/

set_option autoImplicit false

namespace EmbeddingLatency.Text

/-- `n` copies of a character. -/
def rule (c : Char) (n : Nat) : String := String.ofList (List.replicate n c)

/-- Spaces behind the text up to `width` code points. -/
def padRight (width : Nat) (text : String) : String := text ++ rule ' ' (width - text.length)

/-- Spaces in front of the text up to `width` code points. -/
def padLeft (width : Nat) (text : String) : String := rule ' ' (width - text.length) ++ text

/-- The widest field that a text can be padded to. -/
def widestField : Nat := 65535

/-- The text in a field of a given width, unless there is no such field. -/
def padRight? (width : Nat) (text : String) : Option String :=
  if width ≤ widestField then some (padRight width text) else none

/-- The text at the end of a field of a given width, unless there is no such field. -/
def padLeft? (width : Nat) (text : String) : Option String :=
  if width ≤ widestField then some (padLeft width text) else none

@[simp] theorem length_rule (c : Char) (n : Nat) : (rule c n).length = n := by
  simp [rule]

/-- A text has at least as many bytes as code points. -/
theorem length_le_utf8ByteSize (text : String) : text.length ≤ text.utf8ByteSize := by
  induction text using String.push_induction with
  | empty => exact Nat.zero_le _
  | push text c ih =>
    rw [String.length_push, String.utf8ByteSize_push]
    exact Nat.add_le_add ih (Char.utf8Size_pos c)

theorem length_padRight (width : Nat) (text : String) (h : text.length ≤ width) :
    (padRight width text).length = width := by
  simp [padRight]; omega

theorem length_padLeft (width : Nat) (text : String) (h : text.length ≤ width) :
    (padLeft width text).length = width := by
  simp [padLeft]; omega

/-- How many spaces a tab is wide beside a progress bar. -/
def tabWidth : Nat := 8

/-- A text with spaces in place of its tabs. -/
def withoutTabs (text : String) : String :=
  String.ofList (text.toList.flatMap fun c => if c = '\t' then List.replicate tabWidth ' ' else [c])

end EmbeddingLatency.Text
