import EmbeddingLatency.Decimal.Fixed
import EmbeddingLatency.Decimal.Numeral
import EmbeddingLatency.Proofs.Decimal.ExactValues

/-!
# Decimal text with fixed places

What is written with fixed places are digits, with a point among them, and their number is found
again in the text (`pointed_injective`). So a double that is shown as a figure below some limit is a
double below that limit, up to half a unit of the last place (`fixed_lt_iff`).
-/

set_option autoImplicit false

namespace EmbeddingLatency.Decimal

section Characters

theorem isDigit_of_mem_toDigits {n : Nat} {c : Char} (member : c ∈ Nat.toDigits 10 n) :
    c.isDigit = true :=
  Nat.isDigit_of_mem_toDigits (by decide) (by decide) member

/-- A natural number is not written as a text without digits. -/
theorem digits_ne {text : String} (n : Nat) (noDigits : ∀ c ∈ text.toList, c.isDigit = false) :
    digits n ≠ text := by
  rintro rfl
  obtain ⟨c, others, written⟩ :=
    List.exists_cons_of_ne_nil (Nat.toDigits_ne_nil (n := n) (b := 10))
  have member : c ∈ Nat.toDigits 10 n := by simp [written]
  have none := noDigits c (by simpa [digits] using member)
  simp [isDigit_of_mem_toDigits member] at none

theorem isDigit_of_mem_padded {width n : Nat} {c : Char} (member : c ∈ padded width n) :
    c.isDigit = true := by
  rcases List.mem_append.mp member with zero | digit
  · rw [List.eq_of_mem_replicate zero]
    rfl
  · exact isDigit_of_mem_toDigits digit

theorem padded_ne_nil (width n : Nat) : padded width n ≠ [] := by
  simp [padded, Nat.toDigits_ne_nil]

theorem mem_pointed {places n : Nat} {c : Char} (member : c ∈ (pointed places n).toList) :
    c.isDigit = true ∨ c = '.' := by
  unfold pointed at member
  simp only at member
  split at member
  case isTrue =>
    rw [String.toList_ofList] at member
    exact .inl (isDigit_of_mem_padded (List.mem_of_mem_take member))
  case isFalse =>
    simp only [String.toList_append, String.toList_ofList, List.mem_append] at member
    rcases member with (whole | point) | fraction
    · exact .inl (isDigit_of_mem_padded (List.mem_of_mem_take whole))
    · exact .inr (by simpa using point)
    · exact .inl (isDigit_of_mem_padded (List.mem_of_mem_drop fraction))

theorem pointed_ne_empty (places n : Nat) : pointed places n ≠ "" := by
  unfold pointed
  simp only
  split
  case isTrue whole => simp [whole, padded_ne_nil]
  case isFalse => simp

theorem fixed_ne_empty (places : Nat) (x : Float) : fixed places x ≠ "" := by
  intro empty
  have nothing : (fixed places x).toList = [] := by rw [empty]; rfl
  unfold fixed at nothing
  cases kind : Binary.ofFloat x with
  | nan => simp [kind, Binary.fixed] at nothing
  | infinite negative => simp [kind, Binary.fixed] at nothing
  | finite negative m q => simp [kind, Binary.fixed, pointed_ne_empty] at nothing

/-- A double is written with digits, a point and a minus sign, or as one of two words. -/
theorem mem_fixed {places : Nat} {x : Float} {c : Char} (member : c ∈ (fixed places x).toList) :
    c.isDigit = true ∨ c ∈ "-.NaNinf".toList := by
  unfold fixed at member
  cases kind : Binary.ofFloat x with
  | nan =>
    rw [kind] at member
    exact .inr ((by decide : "NaN".toList ⊆ "-.NaNinf".toList) member)
  | infinite negative =>
    rw [kind] at member
    cases negative with
    | false => exact .inr ((by decide : "inf".toList ⊆ "-.NaNinf".toList) member)
    | true => exact .inr ((by decide : "-inf".toList ⊆ "-.NaNinf".toList) member)
  | finite negative m q =>
    rw [kind, Binary.fixed, String.toList_append, List.mem_append] at member
    rcases member with signed | pointed
    · cases negative <;> simp [sign] at signed
      simp [signed]
    · rcases mem_pointed pointed with digit | point
      · exact .inl digit
      · simp [point]

theorem not_mem_fixed {c : Char} (noDigit : c.isDigit = false) (other : c ∉ "-.NaNinf".toList)
    (places : Nat) (x : Float) : c ∉ (fixed places x).toList := by
  intro member
  rcases mem_fixed member with digit | listed
  · rw [noDigit] at digit
    cases digit
  · exact other listed

end Characters

section Digits

variable (places n : Nat)

theorem valueOf_padded (width : Nat) : valueOf (padded width n) = n := by
  have zeros (k : Nat) : (List.replicate k '0').foldl (fun n c => 10 * n + digitValue c) 0 = 0 := by
    induction k with
    | zero => rfl
    | succ k ih => exact ih
  unfold padded valueOf
  rw [List.foldl_append, zeros]
  exact Nat.ofDigitChars_ten_toDigits

/-- The digits of a figure, without its point. -/
theorem filter_pointed : (pointed places n).toList.filter Char.isDigit = padded (places + 1) n := by
  have kept (digits : List Char) (all : ∀ c ∈ digits, c ∈ padded (places + 1) n) :
      digits.filter Char.isDigit = digits :=
    List.filter_eq_self.mpr fun c member => isDigit_of_mem_padded (all c member)
  unfold pointed
  simp only
  split
  case isTrue whole =>
    rw [String.toList_ofList, kept _ fun c => List.mem_of_mem_take, whole]
    exact List.take_length
  case isFalse =>
    have point : ".".toList.filter Char.isDigit = [] := by decide
    simp only [String.toList_append, String.toList_ofList, List.filter_append, point,
      List.append_nil]
    rw [kept _ fun c => List.mem_of_mem_take, kept _ fun c => List.mem_of_mem_drop,
      List.take_append_drop]

theorem pointed_injective {places n k : Nat} (same : pointed places n = pointed places k) : n = k :=
  calc
    n = valueOf ((pointed places n).toList.filter Char.isDigit) := by
      rw [filter_pointed, valueOf_padded]
    _ = valueOf ((pointed places k).toList.filter Char.isDigit) := by rw [same]
    _ = k := by rw [filter_pointed, valueOf_padded]

/-- Whole numbers are written as figures without places. -/
theorem pointed_zero : pointed 0 n = digits n := by
  have filled : 1 - (Nat.toDigits 10 n).length = 0 := by
    have some : 0 < (Nat.toDigits 10 n).length := Nat.length_toDigits_pos
    omega
  unfold pointed padded digits
  simp [filled]

end Digits

section Rounding

/-- Rounding gives a number below an even one exactly if the quotient is more than a half below
    that: at the half itself, the even neighbour is chosen. -/
theorem roundDiv_lt_iff (num : Nat) {den k : Nat} (positive : 0 < den) (even : k % 2 = 0) :
    roundDiv num den < k ↔ (num : ℚ) / den < k - 1 / 2 := by
  obtain ⟨f, quotient, nonneg, part, -, below, beyond⟩ := exists_fraction num positive
  unfold roundDiv
  simp only [quotient]
  generalize num / den = n
  have limit (j : Nat) (least : (j : ℚ) - 1 / 2 ≤ f) (most : f < j + 1 / 2) :
      n + j < k ↔ (n : ℚ) + f < k - 1 / 2 := by
    constructor
    · intro order
      have room : (n : ℚ) + j + 1 ≤ k := by exact_mod_cast order
      linarith
    · intro order
      by_contra past
      have room : (k : ℚ) ≤ n + j := by exact_mod_cast not_lt.mp past
      linarith
  split
  case isTrue less =>
    have small := below.mp less
    exact limit 0 (by norm_num; linarith) (by norm_num; exact small)
  case isFalse atLeast =>
    have large : 1 / 2 ≤ f := not_lt.mp (mt below.mpr atLeast)
    have up := limit 1 (by norm_num; linarith) (by norm_num; linarith)
    split
    case isTrue => exact up
    case isFalse =>
      -- The limit is even, so a tie just below it goes up to it.
      rw [← up]
      split <;> omega

/-- The quotient that is written with a number of places. -/
theorem scaled_value (m : Nat) (q : Int) (places : Nat) :
    0 < (scaled m q places).2 ∧
      ((scaled m q places).1 : ℚ) / (scaled m q places).2 = m * 2 ^ q * 10 ^ places := by
  have tens : Nat.pow 10 ((places : Int).toNat) = 10 ^ places ∧
      Nat.pow 10 ((-(places : Int)).toNat) = 1 := by
    have none : (-(places : Int)).toNat = 0 := by omega
    rw [none, Int.toNat_natCast]
    exact ⟨rfl, rfl⟩
  have twos : ((2 ^ q.toNat : Nat) : ℚ) / (2 ^ (-q).toNat : Nat) = 2 ^ q := by
    push_cast
    rw [div_eq_iff (by positivity), ← zpow_natCast, ← zpow_natCast, ← zpow_add₀ (by norm_num)]
    congr 1
    omega
  refine ⟨scaled_snd_pos m q places, ?_⟩
  unfold scaled
  rw [tens.1, tens.2, Nat.mul_one]
  show ((m * 2 ^ q.toNat * 10 ^ places : Nat) : ℚ) / (2 ^ (-q).toNat : Nat) = _
  rw [← twos]
  push_cast
  ring

theorem ne_pointed {text : String} {places n : Nat} {c : Char} (member : c ∈ text.toList)
    (other : c.isDigit = false ∧ c ≠ '.') : text ≠ pointed places n := by
  rintro rfl
  rcases mem_pointed member with digit | point
  · rw [other.1] at digit
    cases digit
  · exact other.2 point

/-- A double is shown as a figure below an even limit exactly if it is more than half a unit of the
    last place below that. -/
theorem fixed_lt_iff (places : Nat) (x : Float) {k : Nat} (even : k % 2 = 0) (filled : 0 < k) :
    (∀ n, fixed places x = pointed places n → n < k) ↔
      ∀ v, exact x = some v → v * 10 ^ places < k - 1 / 2 := by
  unfold exact fixed
  cases Binary.ofFloat x with
  | nan =>
    have word : 'N' ∈ ((Binary.nan).fixed places).toList := (by decide : 'N' ∈ "NaN".toList)
    constructor
    · exact fun _ v known => nomatch known
    · exact fun _ n same => absurd same (ne_pointed word (by decide))
  | infinite negative =>
    have word : 'i' ∈ ((Binary.infinite negative).fixed places).toList := by
      rw [Binary.fixed, String.toList_append, List.mem_append]
      exact .inr (by decide)
    constructor
    · exact fun _ v known => nomatch known
    · exact fun _ n same => absurd same (ne_pointed word (by decide))
  | finite negative m q =>
    obtain ⟨positive, value⟩ := scaled_value m q places
    have only (v : ℚ) : (Binary.finite negative m q).exact = some v ↔
        (if negative then -1 else 1) * (m * 2 ^ q) = v := Option.some_inj
    simp only [only, forall_eq']
    cases negative with
    | false =>
      have shown : (Binary.finite false m q).fixed places =
          pointed places (roundDiv (scaled m q places).1 (scaled m q places).2) :=
            String.empty_append
      have same (n : Nat) : (Binary.finite false m q).fixed places = pointed places n ↔
          roundDiv (scaled m q places).1 (scaled m q places).2 = n := by
        rw [shown]
        exact ⟨pointed_injective, congrArg _⟩
      simp only [same, forall_eq']
      rw [roundDiv_lt_iff _ positive even, value]
      simp
    | true =>
      have word : '-' ∈ ((Binary.finite true m q).fixed places).toList := by
        rw [Binary.fixed, String.toList_append, List.mem_append]
        exact .inl (by decide)
      constructor
      · intro _
        have room : (1 : ℚ) ≤ k := by exact_mod_cast filled
        have above : (0 : ℚ) ≤ m * 2 ^ q * 10 ^ places := by positivity
        simp only [if_true]
        linarith
      · exact fun _ n same => absurd same (ne_pointed word (by decide))

end Rounding

end EmbeddingLatency.Decimal
