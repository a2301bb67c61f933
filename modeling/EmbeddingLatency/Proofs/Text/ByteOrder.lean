import Mathlib.Data.String.Basic
import Mathlib.Tactic.SplitIfs

/-!
# The order of bytes

Texts are ordered by their characters. Their bytes are ordered in the same way. A character is
written as a number in base 64, with a mark beside its first digit. The mark grows with the number
of digits, so of two characters with different numbers of digits the first bytes decide
(`lead_lt_lead`), and otherwise the first digits that differ do (`marked_append_lt`). Both come
before either character ends, so what follows does not matter.
-/

set_option autoImplicit false

namespace EmbeddingLatency.Text

/-- The bytes of a text. -/
def bytes (text : String) : List UInt8 := text.toUTF8.data.toList

/-- A number in base 64 with some digits behind the first one, which stands beside a mark. -/
def marked (mark : Nat) : Nat → Nat → List UInt8
  | 0, v => [UInt8.ofNat (v + mark)]
  | n + 1, v => marked mark n (v / 64) ++ [UInt8.ofNat (v % 64 + 128)]

/-- How many digits are behind the first one. -/
def laterDigits (v : Nat) : Nat :=
  if v ≤ 127 then 0 else if v ≤ 2047 then 1 else if v ≤ 65535 then 2 else 3

/-- The mark of a number with some digits behind the first one. -/
def markOf : Nat → Nat
  | 0 => 0
  | 1 => 192
  | 2 => 224
  | _ => 240

/-- The first digit of a number beside its mark. -/
def lead (v : Nat) : Nat := v / 64 ^ laterDigits v + markOf (laterDigits v)

/-- The greatest number of a character lies below. -/
def characterCount : Nat := 1114112

theorem toNat_val_lt (c : Char) : c.val.toNat < characterCount := by
  have valid := c.valid
  unfold UInt32.isValidChar Nat.isValidChar at valid
  unfold characterCount
  omega

section Marked

variable {v w : Nat}

/-- Bytes are compared one by one. -/
theorem cons_ofNat_lt {a b : Nat} {front back : List UInt8} (byte : b < 256)
    (less : a < b ∨ a = b ∧ front < back) : UInt8.ofNat a :: front < UInt8.ofNat b :: back := by
  apply List.cons_lt_cons_iff.mpr
  rcases less with less | ⟨rfl, less⟩
  · exact .inl ((UInt8.ofNat_lt_iff_lt (Nat.lt_trans less byte) byte).mpr less)
  · exact .inr ⟨rfl, less⟩

/-- With equally many digits, the first digits that differ decide. -/
theorem marked_append_lt {mark n : Nat} (less : v < w) (byte : w / 64 ^ n + mark < 256)
    (front back : List UInt8) : marked mark n v ++ front < marked mark n w ++ back := by
  induction n generalizing v w front back with
  | zero =>
    rw [Nat.pow_zero, Nat.div_one] at byte
    exact cons_ofNat_lt byte (.inl (by omega))
  | succ n ih =>
    unfold marked
    rw [List.append_assoc, List.append_assoc]
    rcases Nat.lt_or_ge (v / 64) (w / 64) with upper | notUpper
    · rw [Nat.pow_succ', ← Nat.div_div_eq_div_mul] at byte
      exact ih upper byte _ _
    · have same : v / 64 = w / 64 := by omega
      rw [same]
      apply List.append_left_lt
      exact cons_ofNat_lt (by omega) (.inl (by omega))

theorem exists_marked_eq_cons (mark n v : Nat) :
    ∃ rest, marked mark n v = UInt8.ofNat (v / 64 ^ n + mark) :: rest := by
  induction n generalizing v with
  | zero => exact ⟨[], by rw [Nat.pow_zero, Nat.div_one]; rfl⟩
  | succ n ih =>
    obtain ⟨rest, eq⟩ := ih (v / 64)
    refine ⟨rest ++ [UInt8.ofNat (v % 64 + 128)], ?_⟩
    rw [marked, eq, Nat.div_div_eq_div_mul, ← Nat.pow_succ', List.cons_append]

theorem lead_lt (character : v < characterCount) : lead v < 256 := by
  unfold characterCount at character
  unfold lead laterDigits
  split_ifs <;> simp only [markOf] <;> omega

theorem laterDigits_le (less : v < w) : laterDigits v ≤ laterDigits w := by
  unfold laterDigits
  split_ifs <;> omega

/-- Of numbers with different numbers of digits, the first bytes decide. -/
theorem lead_lt_lead (fewer : laterDigits v < laterDigits w) : lead v < lead w := by
  unfold lead
  unfold laterDigits at *
  split_ifs at * <;> simp only [markOf] <;> omega

end Marked

theorem utf8EncodeChar_eq_marked (c : Char) :
    String.utf8EncodeChar c =
      marked (markOf (laterDigits c.val.toNat)) (laterDigits c.val.toNat) c.val.toNat := by
  have character := toNat_val_lt c
  unfold characterCount at character
  unfold String.utf8EncodeChar laterDigits
  generalize c.val.toNat = v at character
  dsimp only
  split_ifs with one two three
  · rfl
  · have first : v / 64 % 32 = v / 64 := Nat.mod_eq_of_lt (by omega)
    rw [first]
    rfl
  · have first : v / 4096 % 16 = v / 64 / 64 := by omega
    rw [first]
    rfl
  · have first : v / 262144 % 8 = v / 64 / 64 / 64 := by omega
    have second : v / 4096 % 64 = v / 64 / 64 % 64 := by omega
    rw [first, second]
    rfl

/-- The bytes of a smaller character are smaller, whatever follows. -/
theorem utf8EncodeChar_append_lt {c d : Char} (less : c < d) (front back : List UInt8) :
    String.utf8EncodeChar c ++ front < String.utf8EncodeChar d ++ back := by
  have less : c.val.toNat < d.val.toNat := less
  have byte := lead_lt (toNat_val_lt d)
  rw [utf8EncodeChar_eq_marked, utf8EncodeChar_eq_marked]
  rcases Nat.lt_or_eq_of_le (laterDigits_le less) with fewer | same
  · obtain ⟨rest, eq⟩ := exists_marked_eq_cons (markOf (laterDigits c.val.toNat))
      (laterDigits c.val.toNat) c.val.toNat
    obtain ⟨rest', eq'⟩ := exists_marked_eq_cons (markOf (laterDigits d.val.toNat))
      (laterDigits d.val.toNat) d.val.toNat
    rw [eq, eq', List.cons_append, List.cons_append]
    exact cons_ofNat_lt byte (.inl (lead_lt_lead fewer))
  · rw [same]
    exact marked_append_lt less byte front back

theorem bytes_eq_flatMap (text : String) :
    bytes text = text.toList.flatMap String.utf8EncodeChar := by
  have encoded : text.toByteArray = text.toList.utf8Encode := by
    rw [← String.toByteArray_ofList, String.ofList_toList]
  rw [bytes, String.toUTF8_eq_toByteArray, encoded, List.utf8Encode, List.toList_data_toByteArray]

theorem flatMap_utf8EncodeChar_lt {cs ds : List Char} (less : cs < ds) :
    cs.flatMap String.utf8EncodeChar < ds.flatMap String.utf8EncodeChar := by
  induction cs generalizing ds with
  | nil =>
    cases ds with
    | nil => exact absurd less (List.not_lt_nil _)
    | cons d ds =>
      obtain ⟨byte, rest, eq⟩ := List.exists_cons_of_ne_nil
        (String.utf8EncodeChar_ne_nil (c := d))
      rw [List.flatMap_nil, List.flatMap_cons, eq, List.cons_append]
      exact List.nil_lt_cons _ _
  | cons c cs ih =>
    cases ds with
    | nil => exact absurd less (List.not_lt_nil _)
    | cons d ds =>
      rw [List.flatMap_cons, List.flatMap_cons]
      rcases List.cons_lt_cons_iff.mp less with first | ⟨rfl, later⟩
      · exact utf8EncodeChar_append_lt first _ _
      · exact List.append_left_lt (ih later)

/-- A smaller text has the smaller bytes. -/
theorem bytes_lt_bytes {text other : String} (less : text < other) : bytes text < bytes other := by
  rw [bytes_eq_flatMap, bytes_eq_flatMap]
  exact flatMap_utf8EncodeChar_lt (String.lt_iff_toList_lt.mp less)

end EmbeddingLatency.Text
