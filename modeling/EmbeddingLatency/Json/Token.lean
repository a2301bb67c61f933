import EmbeddingLatency.Fault
import EmbeddingLatency.Json.Value
import EmbeddingLatency.Text.Reader
import EmbeddingLatency.Decimal.Numeral

/-!
# The tokens of JSON

Texts, numbers and the three words, each taken off the front of a text. A failed reading is one of
three faults: the text is `malformed`, it is well formed so far but not of the wanted kind
(`mismatch`), or it ends too early (`truncated`). Readers of documents report the first fault that
they meet from left to right.
-/

set_option autoImplicit false

namespace EmbeddingLatency.Json

open EmbeddingLatency.Decimal (valueOf ofDigits maxWord)

/-- Why a text was not read. -/
inductive ReadFault where
  | malformed
  | mismatch
  | truncated
  deriving DecidableEq, Repr

/-- A reader of JSON text. -/
abbrev Reader (α : Type) := Text.Reader ReadFault α

/-- The four characters that may stand between tokens. -/
def isGap (c : Char) : Bool := c == ' ' || c == '\n' || c == '\t' || c == '\r'

/-- The text without the gap in front of it. -/
def skipGap (text : List Char) : List Char := text.dropWhile isGap

theorem length_skipGap_le (text : List Char) : (skipGap text).length ≤ text.length :=
  (List.dropWhile_sublist isGap).length_le

/-- The value of a hexadecimal digit. -/
def hexValue? (c : Char) : Option Nat :=
  if c.isDigit then some (c.toNat - '0'.toNat)
  else if 'a' ≤ c ∧ c ≤ 'f' then some (c.toNat - 'a'.toNat + 10)
  else if 'A' ≤ c ∧ c ≤ 'F' then some (c.toNat - 'A'.toNat + 10)
  else none

/-- Four hexadecimal digits. A text that ends within four bytes is truncated, whatever is left
    of it. -/
def hexQuad : List Char → Except ReadFault (Nat × List Char)
  | a :: b :: c :: d :: rest =>
    match hexValue? a, hexValue? b, hexValue? c, hexValue? d with
    | some a, some b, some c, some d => .ok (((a * 16 + b) * 16 + c) * 16 + d, rest)
    | _, _, _, _ => .error .malformed
  | text => .error (if 4 ≤ text.foldr (·.utf8Size + ·) 0 then .malformed else .truncated)

theorem length_hexQuad {text : List Char} {n : Nat} {rest : List Char}
    (h : hexQuad text = .ok (n, rest)) : rest.length < text.length := by
  unfold hexQuad at h
  split at h
  · split at h <;> simp_all
    obtain ⟨_, rfl⟩ := h
    omega
  · simp at h

/-- Is `n` the first half of a surrogate pair? -/
def isLead (n : Nat) : Bool := 0xD800 ≤ n && n ≤ 0xDBFF

/-- Is `n` the second half of a surrogate pair? -/
def isTrail (n : Nat) : Bool := 0xDC00 ≤ n && n ≤ 0xDFFF

/-- The second half of a surrogate pair whose first half is `lead`. -/
def trailEscape (lead : Nat) : List Char → Except ReadFault (Char × List Char)
  | '\\' :: 'u' :: rest =>
    match hexQuad rest with
    | .error e => .error e
    | .ok (n, rest) =>
      if isTrail n then
        .ok (Char.ofNat (0x10000 + (lead - 0xD800) * 0x400 + (n - 0xDC00)), rest)
      else .error .malformed
  | [] => .error .truncated
  | ['\\'] => .error .truncated
  | _ => .error .malformed

/-- The character that an escape stands for; the text starts behind the backslash. -/
def escape : List Char → Except ReadFault (Char × List Char)
  | [] => .error .truncated
  | '"' :: rest => .ok ('"', rest)
  | '\\' :: rest => .ok ('\\', rest)
  | '/' :: rest => .ok ('/', rest)
  | 'b' :: rest => .ok ('\x08', rest)
  | 'f' :: rest => .ok ('\x0c', rest)
  | 'n' :: rest => .ok ('\n', rest)
  | 'r' :: rest => .ok ('\r', rest)
  | 't' :: rest => .ok ('\t', rest)
  | 'u' :: rest =>
    match hexQuad rest with
    | .error e => .error e
    | .ok (n, rest) =>
      if isTrail n then .error .malformed
      else if isLead n then trailEscape n rest
      else .ok (Char.ofNat n, rest)
  | _ => .error .malformed

theorem length_trailEscape {lead : Nat} {text : List Char} {c : Char} {rest : List Char}
    (h : trailEscape lead text = .ok (c, rest)) : rest.length < text.length := by
  unfold trailEscape at h
  split at h
  · split at h
    · simp at h
    · rename_i n tail hq
      have := length_hexQuad hq
      split at h
      · simp only [Except.ok.injEq, Prod.mk.injEq] at h
        obtain ⟨_, rfl⟩ := h
        simp; omega
      · simp at h
  all_goals simp at h

theorem length_escape {text : List Char} {c : Char} {rest : List Char}
    (h : escape text = .ok (c, rest)) : rest.length < text.length := by
  unfold escape at h
  split at h
  case h_1 => simp at h
  case h_10 =>
    split at h
    · simp at h
    · rename_i n tail hq
      have := length_hexQuad hq
      split at h
      · simp at h
      · split at h
        · have := length_trailEscape h
          simp; omega
        · simp only [Except.ok.injEq, Prod.mk.injEq] at h
          obtain ⟨_, rfl⟩ := h
          simp; omega
  case h_11 => simp at h
  all_goals
    simp only [Except.ok.injEq, Prod.mk.injEq] at h
    obtain ⟨_, rfl⟩ := h
    simp only [List.length_cons]; omega

/-- The characters of a text up to its closing quote. -/
def textBody (text : List Char) : Except ReadFault (List Char × List Char) :=
  match text with
  | [] => .error .truncated
  | c :: rest =>
    if c = '"' then .ok ([], rest)
    else if c = '\\' then
      match h : escape rest with
      | .error e => .error e
      | .ok (d, tail) =>
        have := length_escape h
        match textBody tail with
        | .error e => .error e
        | .ok (body, left) => .ok (d :: body, left)
    else if c.toNat < 0x20 then .error .malformed
    else
      match textBody rest with
      | .error e => .error e
      | .ok (body, left) => .ok (c :: body, left)
termination_by text.length

theorem length_textBody {text body rest : List Char}
    (h : textBody text = .ok (body, rest)) : rest.length < text.length := by
  fun_induction textBody text generalizing body with
  | case2 tail =>
    simp only [Except.ok.injEq, Prod.mk.injEq] at h
    obtain ⟨_, rfl⟩ := h
    simp
  | case5 tail d left _ _ body' rest' hb _ ih =>
    simp only [Except.ok.injEq, Prod.mk.injEq] at h
    obtain ⟨_, rfl⟩ := h
    have := ih hb
    simp only [List.length_cons]
    omega
  | case8 c tail _ _ _ body' rest' hb ih =>
    simp only [Except.ok.injEq, Prod.mk.injEq] at h
    obtain ⟨_, rfl⟩ := h
    have := ih hb
    simp only [List.length_cons]
    omega
  | _ => simp at h

/-- An escape that is passed over: any four hexadecimal digits will do. -/
def passEscape : List Char → Except ReadFault (List Char)
  | [] => .error .truncated
  | 'u' :: rest => (hexQuad rest).map (·.2)
  | c :: rest =>
    if c ∈ ['"', '\\', '/', 'b', 'f', 'n', 'r', 't'] then .ok rest else .error .malformed

theorem length_passEscape {text rest : List Char} (h : passEscape text = .ok rest) :
    rest.length < text.length := by
  unfold passEscape at h
  split at h
  · simp at h
  · rename_i tail
    cases hq : hexQuad tail with
    | error e => simp [hq, Except.map] at h
    | ok p =>
      have := @length_hexQuad _ p.1 p.2 hq
      simp only [hq, Except.map, Except.ok.injEq] at h
      subst h
      simp; omega
  · split at h <;> simp_all

/-- What follows the closing quote of a text that is passed over. -/
def passText (text : List Char) : Except ReadFault (List Char) :=
  match text with
  | [] => .error .truncated
  | c :: rest =>
    if c = '"' then .ok rest
    else if c = '\\' then
      match h : passEscape rest with
      | .error e => .error e
      | .ok tail =>
        have := length_passEscape h
        passText tail
    else if c.toNat < 0x20 then .error .malformed
    else passText rest
termination_by text.length

theorem length_passText {text rest : List Char} (h : passText text = .ok rest) :
    rest.length < text.length := by
  fun_induction passText text with
  | case2 tail =>
    simp only [Except.ok.injEq] at h
    subst h
    simp
  | case4 _ _ _ _ _ ih =>
    have := ih h
    simp only [List.length_cons]
    omega
  | case6 _ _ _ _ _ ih =>
    have := ih h
    simp only [List.length_cons]
    omega
  | _ => simp at h

/-- A number as it is written. -/
structure Numeral where
  negative : Bool
  whole : List Char
  fraction : List Char
  exponent : Int
  /-- Has it neither a point nor an exponent? -/
  plain : Bool

/-- The exponent of a numeral. A text that ends where a digit has to stand fails with `atEnd`. -/
def exponentPart (atEnd : ReadFault) : List Char → Except ReadFault (Option Int × List Char)
  | [] => .ok (none, [])
  | c :: rest =>
    if c = 'e' ∨ c = 'E' then
      let (negative, tail) := Decimal.splitSign rest
      let ds := tail.takeWhile Char.isDigit
      if ds = [] then .error (if tail = [] then atEnd else .malformed)
      else
        let power : Int := if negative then -(valueOf ds : Int) else valueOf ds
        .ok (some power, tail.dropWhile Char.isDigit)
    else .ok (none, c :: rest)

/-- The digits behind the point of a numeral. -/
def fractionPart (atEnd : ReadFault) : List Char → Except ReadFault (Option (List Char) × List Char)
  | '.' :: rest =>
    let ds := rest.takeWhile Char.isDigit
    if ds = [] then .error (if rest = [] then atEnd else .malformed)
    else .ok (some ds, rest.dropWhile Char.isDigit)
  | text => .ok (none, text)

/-- The digits in front of the point of a numeral: no zero in front of another digit. -/
def wholePart (atEnd : ReadFault) : List Char → Except ReadFault (List Char × List Char)
  | [] => .error atEnd
  | c :: rest =>
    if c = '0' then
      if (rest.head?.map Char.isDigit).getD false then .error .malformed else .ok ([c], rest)
    else if c.isDigit then .ok (c :: rest.takeWhile Char.isDigit, rest.dropWhile Char.isDigit)
    else .error .malformed

/-- A numeral: minus sign, whole part, fraction, exponent. -/
def numeral (atEnd : ReadFault) (text : List Char) : Except ReadFault (Numeral × List Char) :=
  let (negative, text) := match text with
    | '-' :: rest => (true, rest)
    | _ => (false, text)
  match wholePart atEnd text with
  | .error e => .error e
  | .ok (whole, text) =>
    match fractionPart atEnd text with
    | .error e => .error e
    | .ok (fraction, text) =>
      match exponentPart atEnd text with
      | .error e => .error e
      | .ok (exponent, text) =>
        .ok ({ negative, whole, fraction := fraction.getD [], exponent := exponent.getD 0
               plain := fraction.isNone && exponent.isNone }, text)

theorem length_wholePart {atEnd : ReadFault} {text ds rest : List Char}
    (h : wholePart atEnd text = .ok (ds, rest)) : rest.length < text.length := by
  unfold wholePart at h
  split at h
  · simp at h
  · rename_i c tail
    split at h
    · split at h
      · simp at h
      · simp only [Except.ok.injEq, Prod.mk.injEq] at h
        obtain ⟨_, rfl⟩ := h
        simp
    · split at h
      · simp only [Except.ok.injEq, Prod.mk.injEq] at h
        obtain ⟨_, rfl⟩ := h
        have := (List.dropWhile_sublist (l := tail) Char.isDigit).length_le
        simp; omega
      · simp at h

theorem length_fractionPart {atEnd : ReadFault} {text rest : List Char} {ds : Option (List Char)}
    (h : fractionPart atEnd text = .ok (ds, rest)) : rest.length ≤ text.length := by
  unfold fractionPart at h
  split at h
  · rename_i tail
    simp only at h
    split at h
    · simp at h
    · simp only [Except.ok.injEq, Prod.mk.injEq] at h
      obtain ⟨_, rfl⟩ := h
      have := (List.dropWhile_sublist (l := tail) Char.isDigit).length_le
      simp; omega
  · simp only [Except.ok.injEq, Prod.mk.injEq] at h
    obtain ⟨_, rfl⟩ := h
    simp

theorem length_splitSign_le (text : List Char) :
    (Decimal.splitSign text).2.length ≤ text.length := by
  unfold Decimal.splitSign
  split <;> simp

theorem length_exponentPart {atEnd : ReadFault} {text rest : List Char} {e : Option Int}
    (h : exponentPart atEnd text = .ok (e, rest)) : rest.length ≤ text.length := by
  unfold exponentPart at h
  split at h
  · simp only [Except.ok.injEq, Prod.mk.injEq] at h
    obtain ⟨_, rfl⟩ := h
    simp
  · rename_i c tail
    split at h
    · simp only at h
      split at h
      · simp at h
      · simp only [Except.ok.injEq, Prod.mk.injEq] at h
        obtain ⟨_, rfl⟩ := h
        have := (List.dropWhile_sublist (l := (Decimal.splitSign tail).2) Char.isDigit).length_le
        have := length_splitSign_le tail
        simp; omega
    · simp only [Except.ok.injEq, Prod.mk.injEq] at h
      obtain ⟨_, rfl⟩ := h
      simp

theorem length_numeral {atEnd : ReadFault} {text rest : List Char} {n : Numeral}
    (h : numeral atEnd text = .ok (n, rest)) : rest.length < text.length := by
  have key : ∀ t : List Char, t.length ≤ text.length →
      ∀ w t₁, wholePart atEnd t = .ok (w, t₁) → ∀ f t₂, fractionPart atEnd t₁ = .ok (f, t₂) →
      ∀ e t₃, exponentPart atEnd t₂ = .ok (e, t₃) → t₃.length < text.length := by
    intro t ht w t₁ h₁ f t₂ h₂ e t₃ h₃
    have := length_wholePart h₁
    have := length_fractionPart h₂
    have := length_exponentPart h₃
    omega
  unfold numeral at h
  split at h
  rename_i negative t ht
  have hle : t.length ≤ text.length := by
    split at ht <;> simp only [Prod.mk.injEq] at ht <;> obtain ⟨_, rfl⟩ := ht <;> simp
  split at h
  · simp at h
  · rename_i w t₁ h₁
    split at h
    · simp at h
    · rename_i f t₂ h₂
      split at h
      · simp at h
      · rename_i e t₃ h₃
        simp only [Except.ok.injEq, Prod.mk.injEq] at h
        obtain ⟨_, rfl⟩ := h
        exact key t hle w t₁ h₁ f t₂ h₂ e t₃ h₃

/-- The number that a numeral stands for. Whole numbers that fit into 64 bits stay whole; minus
    zero and all others are doubles, and a double has to be finite. -/
def Numeral.number? (n : Numeral) : Except ReadFault Number :=
  let magnitude := valueOf n.whole
  let x := ofDigits n.negative (valueOf (n.whole ++ n.fraction)) (n.exponent - n.fraction.length)
  let real : Except ReadFault Number := if x.isFinite then .ok (.real x) else .error .malformed
  if n.plain then
    if n.negative then
      if 0 < magnitude ∧ magnitude ≤ Nat.pow 2 63 then .ok (.negative magnitude) else real
    else if magnitude ≤ maxWord then .ok (.natural magnitude) else real
  else real

/-- The rest of a word, letter by letter. -/
def keyword : List Char → List Char → Except ReadFault (List Char)
  | [], text => .ok text
  | _ :: _, [] => .error .truncated
  | c :: cs, d :: rest => if c = d then keyword cs rest else .error .malformed

theorem length_keyword {word text rest : List Char} (h : keyword word text = .ok rest) :
    rest.length ≤ text.length := by
  fun_induction keyword word text <;> simp_all
  omega

end EmbeddingLatency.Json
