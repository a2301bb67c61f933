import EmbeddingLatency.Json.Token
import EmbeddingLatency.Json.Writer

/-!
# Tokens that are read back

A text in quotes is read as the text, whatever characters it holds and however these are written: as
they stand, or as an escape (`SpellsChar`). What is written for a text is one of its spellings.

A numeral is read up to its end. `IsNumeral` says which texts are numerals, and `IsNumber` which of
them are written; what follows must not go on with one, which a comma, a bracket or white space
never does (`EndsNumber`).
-/

set_option autoImplicit false

namespace EmbeddingLatency.Json

section Texts

theorem textBody_plain {c : Char} (quote : c ≠ '"') (slash : c ≠ '\\') (printed : ¬c.toNat < 0x20)
    (rest : List Char) :
    textBody (c :: rest) = (textBody rest).map fun (body, left) => (c :: body, left) := by
  rw [textBody, if_neg quote, if_neg slash, if_neg printed]
  cases textBody rest <;> rfl

theorem textBody_escape {text tail : List Char} {d : Char} (read : escape text = .ok (d, tail)) :
    textBody ('\\' :: text) = (textBody tail).map fun (body, left) => (d :: body, left) := by
  rw [textBody, if_neg (by decide), if_pos rfl]
  split
  case h_1 fault failed => rw [read] at failed; cases failed
  case h_2 d' tail' found =>
    rw [read] at found
    cases found
    cases textBody tail <;> rfl

theorem passText_escape {text tail : List Char} (passed : passEscape text = .ok tail) :
    passText ('\\' :: text) = passText tail := by
  rw [passText, if_neg (by decide), if_pos rfl]
  split
  case h_1 fault failed => rw [passed] at failed; cases failed
  case h_2 tail' found =>
    rw [passed] at found
    cases found
    rfl

/-- Four hexadecimal digits of either case that denote `n`. -/
inductive IsQuad : (n : Nat) → List Char → Prop where
  | digits {a b c d : Char} {w x y z : Nat} (first : hexValue? a = some w)
      (second : hexValue? b = some x) (third : hexValue? c = some y)
      (fourth : hexValue? d = some z) :
      IsQuad (((w * 16 + x) * 16 + y) * 16 + z) [a, b, c, d]

theorem IsQuad.hexQuad_append {n : Nat} {quad : List Char} (isQuad : IsQuad n quad)
    (rest : List Char) : hexQuad (quad ++ rest) = .ok (n, rest) := by
  obtain ⟨first, second, third, fourth⟩ := isQuad
  simp only [List.cons_append, List.nil_append, hexQuad, first, second, third, fourth]

/-- The letters of the short escapes with the characters that they stand for. -/
def shortEscapes : List (Char × Char) :=
  [('"', '"'), ('\\', '\\'), ('/', '/'), ('b', '\x08'), ('f', '\x0c'), ('n', '\n'), ('r', '\r'),
    ('t', '\t')]

/-- The ways to write a character inside a text: as it stands, as a short escape, by its number, or,
    above the basic plane, by the numbers of a surrogate pair. -/
inductive SpellsChar (c : Char) : List Char → Prop where
  | plain (quote : c ≠ '"') (slash : c ≠ '\\') (printed : ¬c.toNat < 0x20) : SpellsChar c [c]
  | short {letter : Char} (listed : (letter, c) ∈ shortEscapes) : SpellsChar c ['\\', letter]
  | code {quad : List Char} (isQuad : IsQuad c.toNat quad) : SpellsChar c ('\\' :: 'u' :: quad)
  | pair {lead trail : List Char} {n m : Nat} (leads : IsQuad n lead) (trails : IsQuad m trail)
      (high : isLead n) (low : isTrail m)
      (number : c.toNat = 0x10000 + (n - 0xD800) * 0x400 + (m - 0xDC00)) :
      SpellsChar c ('\\' :: 'u' :: (lead ++ '\\' :: 'u' :: trail))

/-- The ways to write a text between its quotes. -/
inductive SpellsText : (text : List Char) → (body : List Char) → Prop where
  | nil : SpellsText [] []
  | cons {c : Char} {code text body : List Char} (here : SpellsChar c code)
      (later : SpellsText text body) : SpellsText (c :: text) (code ++ body)

/-- No character is one half of a surrogate pair. -/
theorem not_surrogate (c : Char) : isLead c.toNat = false ∧ isTrail c.toNat = false := by
  have valid : c.toNat < 0xD800 ∨ 0xDFFF < c.toNat := by
    rcases c.valid with low | ⟨high, -⟩
    · exact .inl low
    · exact .inr high
  simp only [isLead, isTrail, Bool.and_eq_false_iff, decide_eq_false_iff_not]
  omega

/-- A character behind a backslash is written as an escape that stands for it. -/
theorem escape_short {letter c : Char} (listed : (letter, c) ∈ shortEscapes) (rest : List Char) :
    escape (letter :: rest) = .ok (c, rest) ∧ passEscape (letter :: rest) = .ok rest := by
  simp only [shortEscapes, List.mem_cons, Prod.mk.injEq, List.not_mem_nil, or_false] at listed
  rcases listed with ⟨rfl, rfl⟩ | ⟨rfl, rfl⟩ | ⟨rfl, rfl⟩ | ⟨rfl, rfl⟩ | ⟨rfl, rfl⟩ | ⟨rfl, rfl⟩ |
    ⟨rfl, rfl⟩ | ⟨rfl, rfl⟩ <;> exact ⟨rfl, rfl⟩

theorem escape_code {c : Char} {quad : List Char} (isQuad : IsQuad c.toNat quad)
    (rest : List Char) : escape ('u' :: (quad ++ rest)) = .ok (c, rest) := by
  obtain ⟨lead, trail⟩ := not_surrogate c
  simp only [escape, isQuad.hexQuad_append, lead, trail, Bool.false_eq_true, if_false,
    Char.ofNat_toNat]

theorem escape_pair {c : Char} {lead trail : List Char} {n m : Nat} (leads : IsQuad n lead)
    (trails : IsQuad m trail) (high : isLead n = true) (low : isTrail m = true)
    (number : c.toNat = 0x10000 + (n - 0xD800) * 0x400 + (m - 0xDC00)) (rest : List Char) :
    escape ('u' :: (lead ++ '\\' :: 'u' :: (trail ++ rest))) = .ok (c, rest) := by
  have apart : isTrail n = false := by
    simp only [isLead, Bool.and_eq_true, decide_eq_true_eq] at high
    simp only [isTrail, Bool.and_eq_false_iff, decide_eq_false_iff_not]
    omega
  simp only [escape, leads.hexQuad_append, apart, high, Bool.false_eq_true, if_false, if_true,
    trailEscape, trails.hexQuad_append, low, ← number, Char.ofNat_toNat]

theorem passEscape_quad {n : Nat} {quad : List Char} (isQuad : IsQuad n quad) (rest : List Char) :
    passEscape ('u' :: (quad ++ rest)) = .ok rest := by
  simp only [passEscape, isQuad.hexQuad_append]
  rfl

/-- One character is read, however it is written. -/
theorem SpellsChar.textBody_append {c : Char} {code : List Char} (spells : SpellsChar c code)
    (rest : List Char) :
    textBody (code ++ rest) = (textBody rest).map fun (body, left) => (c :: body, left) := by
  cases spells with
  | plain quote slash printed => exact textBody_plain quote slash printed rest
  | short listed => exact textBody_escape (escape_short listed rest).1
  | code isQuad => exact textBody_escape (escape_code isQuad rest)
  | pair leads trails high low number =>
    have read := escape_pair leads trails high low number rest
    simpa using textBody_escape read

/-- One character is passed over, however it is written. -/
theorem SpellsChar.passText_append {c : Char} {code : List Char} (spells : SpellsChar c code)
    (rest : List Char) : passText (code ++ rest) = passText rest := by
  cases spells with
  | plain quote slash printed =>
    rw [List.singleton_append, passText, if_neg quote, if_neg slash, if_neg printed]
  | short listed => exact passText_escape (escape_short listed rest).2
  | code isQuad => exact passText_escape (passEscape_quad isQuad rest)
  | @pair lead trail _ _ leads trails _ _ _ =>
    -- Passed over, the two halves are two escapes.
    have first : passText ('\\' :: 'u' :: (lead ++ '\\' :: 'u' :: (trail ++ rest))) =
        passText ('\\' :: 'u' :: (trail ++ rest)) := passText_escape (passEscape_quad leads _)
    have second : passText ('\\' :: 'u' :: (trail ++ rest)) = passText rest :=
      passText_escape (passEscape_quad trails rest)
    simpa using first.trans second

/-- A text is read up to its closing quote, however its characters are written. -/
theorem SpellsText.textBody_append {text body : List Char} (spells : SpellsText text body)
    (rest : List Char) : textBody (body ++ '"' :: rest) = .ok (text, rest) := by
  induction spells with
  | nil => rw [List.nil_append, textBody, if_pos rfl]
  | cons here later ih =>
    rw [List.append_assoc, here.textBody_append, ih]
    rfl

/-- A text is passed over up to its closing quote. -/
theorem SpellsText.passText_append {text body : List Char} (spells : SpellsText text body)
    (rest : List Char) : passText (body ++ '"' :: rest) = .ok rest := by
  induction spells with
  | nil => rw [List.nil_append, passText, if_pos rfl]
  | cons here later ih => rw [List.append_assoc, here.passText_append, ih]

theorem hexValue_hexDigit (n : Nat) : hexValue? (hexDigit n) = some (n % 16) := by
  have digits : ∀ d < 16, hexValue? (hexDigit d) = some d := by decide
  have same : hexDigit n = hexDigit (n % 16) := by rw [hexDigit, hexDigit, Nat.mod_mod]
  rw [same]
  exact digits _ (Nat.mod_lt n (by decide))

/-- The number of a control character has two digits at most. -/
theorem isQuad_control {c : Char} (control : c.toNat < 0x20) :
    IsQuad c.toNat ['0', '0', hexDigit (c.toNat / 16), hexDigit c.toNat] := by
  have zero : hexValue? '0' = some 0 := by decide
  have quad :=
    IsQuad.digits zero zero (hexValue_hexDigit (c.toNat / 16)) (hexValue_hexDigit c.toNat)
  have number : ((0 * 16 + 0) * 16 + c.toNat / 16 % 16) * 16 + c.toNat % 16 = c.toNat := by omega
  rwa [number] at quad

/-- What is written for a character is one of its spellings. -/
theorem spellsChar_escaped (c : Char) : SpellsChar c (escaped c) := by
  unfold escaped
  split
  case h_8 c quote slash _ _ _ _ _ =>
    split
    case isTrue control => exact .code (isQuad_control control)
    case isFalse printed => exact .plain quote slash printed
  all_goals exact .short (by decide)

theorem spellsText_escaped (text : List Char) : SpellsText text (text.flatMap escaped) := by
  induction text with
  | nil => exact .nil
  | cons c text ih => exact .cons (spellsChar_escaped c) ih

end Texts

/-- Only digits, and one at least. -/
def IsDigits (text : List Char) : Prop := text ≠ [] ∧ ∀ c ∈ text, c.isDigit = true

/-- What may stand in front of a point: zero, or digits that do not begin with it. -/
def IsWhole (text : List Char) : Prop :=
  text = ['0'] ∨ IsDigits text ∧ text.head? ≠ some '0'

/-- What may stand behind the whole part: a point and digits, or nothing. -/
def IsFraction (text : List Char) : Prop := text = [] ∨ ∃ ds, text = '.' :: ds ∧ IsDigits ds

/-- What may stand at the end: an exponent with or without a sign, or nothing. -/
def IsExponent (text : List Char) : Prop :=
  text = [] ∨ ∃ sign ds, text = 'e' :: (sign ++ ds) ∧ sign ∈ [[], ['+'], ['-']] ∧ IsDigits ds

/-- What may stand at the end for a reader, who takes a capital letter too. -/
def IsPower (text : List Char) : Prop :=
  text = [] ∨ ∃ mark sign ds, text = mark :: (sign ++ ds) ∧ mark ∈ ['e', 'E'] ∧
    sign ∈ [[], ['+'], ['-']] ∧ IsDigits ds

/-- The numerals of JSON without a minus sign. -/
def IsUnsigned (text : List Char) : Prop :=
  ∃ whole fraction exponent, text = whole ++ (fraction ++ exponent) ∧ IsWhole whole ∧
    IsFraction fraction ∧ IsExponent exponent

/-- The numerals of JSON, with a small letter in front of the exponent. -/
def IsNumber (text : List Char) : Prop :=
  ∃ sign unsigned, text = sign ++ unsigned ∧ sign ∈ [[], ['-']] ∧ IsUnsigned unsigned

/-- The numerals of JSON. -/
def IsNumeral (text : List Char) : Prop :=
  ∃ sign whole fraction power, text = sign ++ (whole ++ (fraction ++ power)) ∧
    sign ∈ [[], ['-']] ∧ IsWhole whole ∧ IsFraction fraction ∧ IsPower power

/-- A text that does not begin with any of the characters that a numeral goes on with. -/
def EndsNumber (rest : List Char) : Prop :=
  ∀ c ∈ rest.head?, c.isDigit = false ∧ c ≠ '.' ∧ c ≠ 'e' ∧ c ≠ 'E'

section Numerals

variable {atEnd : ReadFault} {rest : List Char}

/-- Digits are taken up to the first character that is none. -/
theorem span_digits {ds : List Char} (digits : ∀ c ∈ ds, c.isDigit = true)
    (ends : ∀ c ∈ rest.head?, c.isDigit = false) :
    (ds ++ rest).takeWhile Char.isDigit = ds ∧ (ds ++ rest).dropWhile Char.isDigit = rest := by
  rw [List.takeWhile_append_of_pos digits, List.dropWhile_append_of_pos digits]
  cases rest with
  | nil => simp
  | cons c rest => simp [ends c rfl]

theorem IsDigits.exists_cons {ds : List Char} (digits : IsDigits ds) :
    ∃ c others, ds = c :: others ∧ c.isDigit = true ∧ ∀ d ∈ others, d.isDigit = true := by
  obtain ⟨c, others, rfl⟩ := List.exists_cons_of_ne_nil digits.1
  exact ⟨c, others, rfl, digits.2 c List.mem_cons_self,
    fun d member => digits.2 d (List.mem_cons_of_mem _ member)⟩

theorem wholePart_append {whole : List Char} (good : IsWhole whole)
    (ends : ∀ c ∈ rest.head?, c.isDigit = false) :
    wholePart atEnd (whole ++ rest) = .ok (whole, rest) := by
  rcases good with rfl | ⟨digits, first⟩
  · cases rest with
    | nil => rfl
    | cons c rest => simp [wholePart, ends c rfl]
  · obtain ⟨c, others, rfl, digit, more⟩ := digits.exists_cons
    have nonzero : c ≠ '0' := by simpa using first
    obtain ⟨taken, left⟩ := span_digits more ends
    rw [List.cons_append, wholePart, if_neg nonzero, if_pos digit, taken, left]

/-- Nothing is read where no point stands. -/
theorem fractionPart_ends (ends : ∀ c ∈ rest.head?, c ≠ '.') :
    fractionPart atEnd rest = .ok (none, rest) := by
  cases rest with
  | nil => rfl
  | cons c rest =>
    rw [fractionPart]
    simpa using ends c rfl

theorem fractionPart_append {fraction : List Char} (good : IsFraction fraction)
    (ends : ∀ c ∈ rest.head?, c.isDigit = false ∧ c ≠ '.') :
    ∃ digits, fractionPart atEnd (fraction ++ rest) = .ok (digits, rest) := by
  rcases good with rfl | ⟨ds, rfl, digits⟩
  · exact ⟨none, fractionPart_ends fun c member => (ends c member).2⟩
  · obtain ⟨taken, left⟩ := span_digits digits.2 fun c member => (ends c member).1
    exact ⟨some ds, by simp only [List.cons_append, fractionPart, taken, left, if_neg digits.1]⟩

theorem IsDigits.unsigned {ds : List Char} (digits : IsDigits ds) (rest : List Char) :
    ∀ c ∈ (ds ++ rest).head?, c ≠ '+' ∧ c ≠ '-' := by
  obtain ⟨d, others, rfl, digit, -⟩ := digits.exists_cons
  intro c first
  obtain rfl : d = c := by simpa using first
  constructor <;> rintro rfl <;> simp at digit

/-- Nothing is read where no exponent stands. -/
theorem exponentPart_ends (ends : EndsNumber rest) :
    exponentPart atEnd rest = .ok (none, rest) := by
  cases rest with
  | nil => rfl
  | cons c rest =>
    obtain ⟨-, -, lower, upper⟩ := ends c rfl
    rw [exponentPart, if_neg (by simp [lower, upper])]

theorem exponentPart_append {power : List Char} (good : IsPower power) (ends : EndsNumber rest) :
    ∃ n, exponentPart atEnd (power ++ rest) = .ok (n, rest) := by
  rcases good with rfl | ⟨mark, sign, ds, rfl, marked, signed, digits⟩
  · exact ⟨none, exponentPart_ends ends⟩
  · obtain ⟨taken, left⟩ := span_digits digits.2 fun c member => (ends c member).1
    have unsigned := Decimal.splitSign_append signed (digits.unsigned rest)
    rw [List.cons_append, List.append_assoc, exponentPart, if_pos (by simpa using marked)]
    simp only [unsigned, taken, left, if_neg digits.1]
    exact ⟨_, rfl⟩

theorem EndsNumber.append_power {power : List Char} (good : IsPower power)
    (ends : EndsNumber rest) :
    ∀ c ∈ (power ++ rest).head?, c.isDigit = false ∧ c ≠ '.' := by
  rcases good with rfl | ⟨mark, sign, ds, rfl, marked, -, -⟩
  · exact fun c member => ⟨(ends c member).1, (ends c member).2.1⟩
  · intro c member
    obtain rfl : mark = c := by simpa using member
    have letters : ∀ c ∈ ['e', 'E'], c.isDigit = false ∧ c ≠ '.' := by simp
    exact letters mark marked

theorem EndsNumber.append_fraction {fraction power : List Char} (good : IsFraction fraction)
    (last : IsPower power) (ends : EndsNumber rest) :
    ∀ c ∈ (fraction ++ (power ++ rest)).head?, c.isDigit = false := by
  rcases good with rfl | ⟨ds, rfl, -⟩
  · exact fun c member => (ends.append_power last c member).1
  · intro c member
    obtain rfl : '.' = c := by simpa using member
    decide

theorem IsWhole.exists_cons {whole : List Char} (good : IsWhole whole) :
    ∃ c others, whole = c :: others ∧ c.isDigit = true := by
  rcases good with rfl | ⟨digits, -⟩
  · exact ⟨'0', [], rfl, rfl⟩
  · obtain ⟨c, others, rfl, digit, -⟩ := digits.exists_cons
    exact ⟨c, others, rfl, digit⟩

/-- A numeral begins with a digit or with a minus sign. -/
theorem IsNumeral.exists_cons {text : List Char} (numeral : IsNumeral text) :
    ∃ c others, text = c :: others ∧ (c = '-' ∨ c.isDigit = true) := by
  obtain ⟨sign, whole, fraction, power, rfl, signed, isWhole, -, -⟩ := numeral
  obtain ⟨c, others, rfl, digit⟩ := isWhole.exists_cons
  simp only [List.mem_cons, List.not_mem_nil, or_false] at signed
  rcases signed with rfl | rfl
  · exact ⟨c, _, rfl, .inr digit⟩
  · exact ⟨'-', _, rfl, .inl rfl⟩

theorem IsExponent.isPower {exponent : List Char} (good : IsExponent exponent) :
    IsPower exponent := by
  rcases good with rfl | ⟨sign, ds, rfl, signed, digits⟩
  · exact .inl rfl
  · exact .inr ⟨'e', sign, ds, rfl, by decide, signed, digits⟩

theorem IsNumber.isNumeral {text : List Char} (number : IsNumber text) : IsNumeral text := by
  obtain ⟨sign, unsigned, rfl, signed, whole, fraction, exponent, rfl, isWhole, isFraction,
    isExponent⟩ := number
  exact ⟨sign, whole, fraction, exponent, rfl, signed, isWhole, isFraction, isExponent.isPower⟩

/-- The parts of a numeral without a minus sign are read one after the other. -/
theorem numeral_unsigned {text whole behindWhole behindFraction : List Char}
    {fraction : Option (List Char)} {power : Option Int} (positive : text.head? ≠ some '-')
    (readWhole : wholePart atEnd text = .ok (whole, behindWhole))
    (readFraction : fractionPart atEnd behindWhole = .ok (fraction, behindFraction))
    (readPower : exponentPart atEnd behindFraction = .ok (power, rest)) :
    numeral atEnd text =
      .ok (⟨false, whole, fraction.getD [], power.getD 0, fraction.isNone && power.isNone⟩,
        rest) := by
  unfold numeral
  split
  next negative unsigned split =>
    split at split
    case h_1 tail => exact absurd rfl positive
    case h_2 =>
      obtain ⟨rfl, rfl⟩ := Prod.mk.inj split
      simp only [readWhole, readFraction, readPower]

theorem IsWhole.head_ne_minus {whole : List Char} (good : IsWhole whole) (rest : List Char) :
    (whole ++ rest).head? ≠ some '-' := by
  obtain ⟨c, others, rfl, digit⟩ := good.exists_cons
  intro minus
  obtain rfl : c = '-' := by simpa using minus
  simp at digit

/-- A numeral is read up to its end. -/
theorem numeral_append {text : List Char} (good : IsNumeral text) (ends : EndsNumber rest) :
    ∃ n, numeral atEnd (text ++ rest) = .ok (n, rest) := by
  obtain ⟨sign, whole, fraction, power, rfl, signed, isWhole, isFraction, isPower⟩ := good
  have readWhole : wholePart atEnd (whole ++ (fraction ++ (power ++ rest))) =
      .ok (whole, fraction ++ (power ++ rest)) :=
    wholePart_append isWhole (ends.append_fraction isFraction isPower)
  obtain ⟨digits, readFraction⟩ :
      ∃ digits, fractionPart atEnd (fraction ++ (power ++ rest)) = .ok (digits, power ++ rest) :=
    fractionPart_append isFraction (ends.append_power isPower)
  obtain ⟨n, readPower⟩ : ∃ n, exponentPart atEnd (power ++ rest) = .ok (n, rest) :=
    exponentPart_append isPower ends
  simp only [List.append_assoc]
  simp only [List.mem_cons, List.not_mem_nil, or_false] at signed
  rcases signed with rfl | rfl
  · exact ⟨_, numeral_unsigned (isWhole.head_ne_minus _) readWhole readFraction readPower⟩
  · simp only [numeral, List.singleton_append, readWhole, readFraction, readPower]
    exact ⟨_, rfl⟩

/-- Digits alone are a plain numeral. -/
theorem numeral_whole {whole : List Char} (good : IsWhole whole) (ends : EndsNumber rest) :
    numeral atEnd (whole ++ rest) = .ok (⟨false, whole, [], 0, true⟩, rest) :=
  numeral_unsigned (good.head_ne_minus rest)
    (wholePart_append good fun c member => (ends c member).1)
    (fractionPart_ends fun c member => (ends c member).2.1) (exponentPart_ends ends)

end Numerals

section Digits

theorem isDigits_toDigits (n : Nat) : IsDigits (Nat.toDigits 10 n) :=
  ⟨Nat.toDigits_ne_nil, fun _ member =>
    Nat.isDigit_of_mem_toDigits (by decide) (by decide) member⟩

/-- Numbers are written without zeros in front. -/
theorem head_toDigits {n : Nat} (positive : 0 < n) : (Nat.toDigits 10 n).head? ≠ some '0' := by
  induction n using Nat.strongRecOn with
  | ind n ih =>
    by_cases small : n < 10
    · have digits : ∀ d < 10, 0 < d → Nat.digitChar d ≠ '0' := by decide
      rw [Nat.toDigits_of_lt_base small]
      simpa using digits n small positive
    · have fewer := ih (n / 10) (by omega) (by omega)
      rw [Nat.toDigits_of_base_le (by decide) (by omega), List.head?_append]
      obtain ⟨c, others, digits⟩ :=
        List.exists_cons_of_ne_nil (Nat.toDigits_ne_nil (n := n / 10) (b := 10))
      rw [digits] at fewer ⊢
      simpa using fewer

theorem isWhole_toDigits (n : Nat) : IsWhole (Nat.toDigits 10 n) := by
  rcases Nat.eq_zero_or_pos n with rfl | positive
  · exact .inl (Nat.toDigits_zero 10)
  · exact .inr ⟨isDigits_toDigits n, head_toDigits positive⟩

/-- The digits of a number stand for it. -/
theorem valueOf_toDigits (n : Nat) : Decimal.valueOf (Nat.toDigits 10 n) = n :=
  Nat.ofDigitChars_ten_toDigits

theorem IsWhole.isUnsigned {whole : List Char} (good : IsWhole whole) : IsUnsigned whole :=
  ⟨whole, [], [], by simp, good, .inl rfl, .inl rfl⟩

/-- A sign may be put in front of a numeral that has none. -/
theorem IsUnsigned.isNumber {text : List Char} (good : IsUnsigned text) (negative : Bool) :
    IsNumber ((Decimal.sign negative).toList ++ text) := by
  refine ⟨_, text, rfl, ?_, good⟩
  cases negative <;> decide

end Digits

end EmbeddingLatency.Json
