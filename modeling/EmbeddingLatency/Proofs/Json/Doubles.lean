import EmbeddingLatency.Proofs.Json.Tokens
import Mathlib.Algebra.Group.Nat.Defs

/-!
# Doubles are written as numerals

The fewest digits that read back are never zero, because every grid that is searched is fine enough
for a point in front of the value (`Reaches`), and so the number that they make up does not begin
with a zero. Whichever way it is laid out, positional or with an exponent, the text of a finite
double is a numeral.
-/

set_option autoImplicit false

namespace EmbeddingLatency.Decimal

/-- The number `m · 2 ^ q` is at least `10 ^ k`. -/
def Reaches (m : Nat) (q k : Int) : Prop := (scaled m q (-k)).2 ≤ (scaled m q (-k)).1

section Grids

variable {m : Nat} {q k : Int}

theorem reaches_iff :
    Reaches m q k ↔
      2 ^ (-q).toNat * 10 ^ k.toNat ≤ m * 2 ^ q.toNat * 10 ^ (-k).toNat := by
  simp [Reaches, scaled]

/-- Finer grids are reached as well. -/
theorem Reaches.of_le {k' : Int} (finer : k' ≤ k) (reaches : Reaches m q k) : Reaches m q k' := by
  rw [reaches_iff] at reaches ⊢
  calc 2 ^ (-q).toNat * 10 ^ k'.toNat
      ≤ 2 ^ (-q).toNat * 10 ^ k.toNat :=
        Nat.mul_le_mul_left _ (Nat.pow_le_pow_right (by decide) (by omega))
    _ ≤ m * 2 ^ q.toNat * 10 ^ (-k).toNat := reaches
    _ ≤ m * 2 ^ q.toNat * 10 ^ (-k').toNat :=
        Nat.mul_le_mul_left _ (Nat.pow_le_pow_right (by decide) (by omega))

theorem pow_length_toDigits {n : Nat} (positive : 0 < n) :
    10 ^ ((Nat.toDigits 10 n).length - 1) ≤ n := by
  by_cases single : (Nat.toDigits 10 n).length - 1 = 0
  · rw [single]
    exact positive
  · have longer : ¬(Nat.toDigits 10 n).length ≤ (Nat.toDigits 10 n).length - 1 := by omega
    rw [Nat.length_toDigits_le_iff (by decide) (by omega)] at longer
    exact Nat.le_of_not_lt longer

/-- If some number of tens is enough, the number that is found is enough. -/
theorem le_tensToReach {num den bound : Nat} (enough : den ≤ num * 10 ^ bound) :
    den ≤ num * 10 ^ tensToReach num den bound := by
  induction bound generalizing num with
  | zero => exact enough
  | succ bound ih =>
    rw [tensToReach]
    split
    case isTrue reached => simpa using reached
    case isFalse =>
      have rest : den ≤ num * 10 * 10 ^ tensToReach (num * 10) den bound :=
        ih (by rwa [Nat.mul_assoc, ← Nat.pow_succ'])
      rwa [Nat.mul_assoc, ← Nat.pow_succ'] at rest

theorem two_pow_le_ten_pow {n t : Nat} (few : n ≤ 3 * t) : 2 ^ n ≤ 10 ^ t :=
  calc 2 ^ n ≤ 2 ^ (3 * t) := Nat.pow_le_pow_right (by decide) few
    _ = (2 ^ 3) ^ t := Nat.pow_mul 2 3 t
    _ ≤ 10 ^ t := Nat.pow_le_pow_left (by decide) t

/-- The grid of the leading digit is reached. -/
theorem reaches_leadingExponent (positive : 0 < m) (least : leastExponent ≤ q) :
    Reaches m q (leadingExponent m q) := by
  have numerator : 0 < m * 2 ^ q.toNat := Nat.mul_pos positive (Nat.pow_pos (by decide))
  have parts : scaled m q 0 = (m * 2 ^ q.toNat, 2 ^ (-q).toNat) := by simp [scaled]
  simp only [leadingExponent, parts]
  rw [reaches_iff]
  split
  case isTrue large =>
    let whole := m * 2 ^ q.toNat / 2 ^ (-q).toNat
    have filled : 0 < whole := Nat.div_pos large (Nat.pow_pos (by decide))
    have digits : 0 < (Nat.toDigits 10 whole).length := Nat.length_toDigits_pos
    have tens : ((((Nat.toDigits 10 whole).length : Int) - 1).toNat =
        (Nat.toDigits 10 whole).length - 1) ∧
        (-(((Nat.toDigits 10 whole).length : Int) - 1)).toNat = 0 := by omega
    rw [tens.1, tens.2, Nat.pow_zero, Nat.mul_one]
    calc 2 ^ (-q).toNat * 10 ^ ((Nat.toDigits 10 whole).length - 1)
        ≤ 2 ^ (-q).toNat * whole := Nat.mul_le_mul_left _ (pow_length_toDigits filled)
      _ ≤ m * 2 ^ q.toNat := Nat.mul_div_le _ _
  case isFalse =>
    -- the smallest doubles are above `10 ^ (-400)`
    have enough : 2 ^ (-q).toNat ≤ m * 2 ^ q.toNat * 10 ^ 400 := by
      have steps : (-q).toNat ≤ 3 * 400 := by simp only [leastExponent] at least; omega
      exact Nat.le_trans (two_pow_le_ten_pow steps) (Nat.le_mul_of_pos_left _ numerator)
    have found := le_tensToReach enough
    have tens : ∀ t : Nat, (-(t : Int)).toNat = 0 ∧ (-(-(t : Int))).toNat = t := by omega
    rw [(tens _).1, (tens _).2, Nat.pow_zero, Nat.mul_one]
    exact found

/-- A point in the interval is no zero. -/
theorem Interval.pos_of_point {n : Nat} (positive : 0 < m)
    (found : (Interval.on m q k).point? = some n) : 0 < n := by
  have low : 0 < (Interval.on m q k).low := by
    have factor : 0 < (scaled 1 q (-k)).1 := scaled_fst_pos Nat.one_pos q (-k)
    have least : 0 < 4 * m - (if m = Nat.pow 2 52 ∧ leastExponent < q then 1 else 2) := by
      split <;> omega
    exact Nat.mul_pos least factor
  have held : ∀ n, (Interval.on m q k).holds n = true → 0 < n := by
    intro n holds
    rcases Nat.eq_zero_or_pos n with rfl | above
    · simp [Interval.holds] at holds
      omega
    · exact above
  unfold Interval.point? at found
  simp only at found
  split at found
  case h_1 lower upper =>
    simp only [Option.some.injEq] at found
    split at found
    case isTrue => exact found ▸ held _ lower
    case isFalse => exact found ▸ held _ upper
  case h_2 lower _ => exact Option.some.inj found ▸ held _ lower
  case h_3 _ upper => exact Option.some.inj found ▸ held _ upper
  case h_4 => cases found

theorem pos_searchGrids (positive : 0 < m) (grids : Nat) (reaches : Reaches m q k) :
    0 < (searchGrids m q k grids).digits := by
  induction grids generalizing k with
  | zero =>
    rw [reaches_iff] at reaches
    refine Nat.div_pos ?_ (Nat.mul_pos (by decide) (scaled_snd_pos 1 q (-k)))
    simp only [Interval.on, scaled, Nat.pow_eq, Nat.one_mul, Int.neg_neg, Nat.mul_assoc]
      at reaches ⊢
    exact Nat.mul_le_mul_left 4 reaches
  | succ grids ih =>
    rw [searchGrids]
    split
    case h_1 n found => exact Interval.pos_of_point positive found
    case h_2 => exact ih (reaches.of_le (by omega))

theorem Scientific.pos_stripped (bound : Nat) {d : Scientific} (positive : 0 < d.digits) :
    0 < (d.stripped bound).digits := by
  induction bound generalizing d with
  | zero => exact positive
  | succ bound ih =>
    rw [stripped]
    split
    case isTrue zeros => exact ih (by simp only; omega)
    case isFalse => exact positive

/-- The digits of a positive double are no zeros. -/
theorem pos_shortest (positive : 0 < m) (least : leastExponent ≤ q) :
    0 < (shortest m q).digits :=
  Scientific.pos_stripped 20 (pos_searchGrids positive 17 (reaches_leadingExponent positive least))

end Grids

/-- Is the double a number? -/
def isFinite (x : Float) : Bool :=
  match Binary.ofFloat x with
  | .finite .. => true
  | _ => false

/-- The exponents of doubles do not go below the least one. -/
theorem Binary.leastExponent_le {bits : Nat} {negative : Bool} {m : Nat} {q : Int}
    (finite : ofBits bits = .finite negative m q) : leastExponent ≤ q := by
  unfold ofBits at finite
  simp only at finite
  split at finite
  · split at finite <;> cases finite
  · split at finite
    · cases finite
      exact Int.le_refl _
    · cases finite
      simp only [leastExponent]
      omega

end EmbeddingLatency.Decimal

namespace EmbeddingLatency.Json

open EmbeddingLatency.Decimal (Binary Scientific digits integer isFinite pos_shortest sign)

section Layouts

variable {ds : List Char} (isDigits : IsDigits ds)

theorem isDigits_zero : IsDigits ['0'] := ⟨by simp, by simp⟩

include isDigits

/-- Zeros may be put in front of digits, and behind them. -/
theorem isDigits_append_zeros (front back : Nat) :
    IsDigits (List.replicate front '0' ++ (ds ++ List.replicate back '0')) := by
  refine ⟨by simp [isDigits.1], fun c member => ?_⟩
  rcases List.mem_append.mp member with zero | member
  · rw [List.eq_of_mem_replicate zero]
    rfl
  · rcases List.mem_append.mp member with digit | zero
    · exact isDigits.2 c digit
    · rw [List.eq_of_mem_replicate zero]
      rfl

variable (first : ds.head? ≠ some '0')

include first

/-- The digits in front of a place and those behind it. -/
theorem isWhole_take (place : Nat) (positive : 0 < place) (inside : place < ds.length) :
    IsWhole (ds.take place) ∧ IsDigits (ds.drop place) := by
  refine ⟨.inr ⟨⟨?_, ?_⟩, ?_⟩, ?_, ?_⟩
  · simp [isDigits.1]; omega
  · exact fun c member => isDigits.2 c (List.mem_of_mem_take member)
  · rw [List.head?_take, if_neg (by omega)]
    exact first
  · simpa using inside
  · exact fun c member => isDigits.2 c (List.mem_of_mem_drop member)

/-- A point behind the first digit, where more follow. -/
theorem isUnsigned_withPoint {exponent : List Char} (isExponent : IsExponent exponent) :
    IsUnsigned ((withPoint ds).toList ++ exponent) := by
  obtain ⟨c, others, rfl, digit, more⟩ := isDigits.exists_cons
  have whole : IsWhole [c] := .inr ⟨⟨by simp, by simpa using digit⟩, by simpa using first⟩
  cases others with
  | nil => exact ⟨[c], [], exponent, by simp [withPoint], whole, .inl rfl, isExponent⟩
  | cons d others =>
    exact ⟨[c], '.' :: d :: others, exponent, by simp [withPoint], whole,
      .inr ⟨_, rfl, by simp, more⟩, isExponent⟩

end Layouts

theorem isExponent_integer (n : Int) :
    IsExponent (('e' : Char) :: ((if 0 < n then "+" else "") ++ integer n).toList) := by
  refine .inr ⟨if 0 < n then ['+'] else if n < 0 then ['-'] else [],
    Nat.toDigits 10 n.natAbs, ?_, ?_, isDigits_toDigits _⟩
  · unfold integer digits
    split
    case isTrue positive => simp [Int.not_lt.mpr (Int.le_of_lt positive)]
    case isFalse => split <;> simp
  · split
    · simp
    · split <;> simp

/-- A positive decimal is written as a numeral. -/
theorem isUnsigned_scientificText {d : Scientific} (positive : 0 < d.digits) :
    IsUnsigned (scientificText d).toList := by
  have isDigits := isDigits_toDigits d.digits
  have first := head_toDigits positive
  have counted : 0 < (Nat.toDigits 10 d.digits).length := Nat.length_toDigits_pos
  unfold scientificText
  simp only
  split
  case isTrue plain =>
    split
    case isTrue below =>
      have behind := isDigits_append_zeros isDigits
        (-(d.exponent + (Nat.toDigits 10 d.digits).length - 1) - 1).toNat 0
      refine ⟨['0'], '.' :: _, [], ?_, .inl rfl, .inr ⟨_, rfl, behind⟩, .inl rfl⟩
      simp
    case isFalse above =>
      split
      case isTrue whole =>
        have front := isDigits_append_zeros isDigits 0 d.exponent.toNat
        refine ⟨_, ['.', '0'], [], ?_, .inr ⟨front, ?_⟩, .inr ⟨['0'], rfl, isDigits_zero⟩,
          .inl rfl⟩
        · simp
        · obtain ⟨c, others, written, -⟩ := isDigits.exists_cons
          rw [written] at first ⊢
          simpa using first
      case isFalse =>
        obtain ⟨front, behind⟩ := isWhole_take isDigits first
          (d.exponent + (Nat.toDigits 10 d.digits).length - 1 + 1).toNat (by omega) (by omega)
        refine ⟨_, '.' :: _, [], ?_, front, .inr ⟨_, rfl, behind⟩, .inl rfl⟩
        simp
  case isFalse =>
    have text := isUnsigned_withPoint isDigits first
      (isExponent_integer (d.exponent + (Nat.toDigits 10 d.digits).length - 1))
    simpa using text

/-- Finite doubles are written as numerals. -/
theorem isNumber_realText {x : Float} (finite : isFinite x = true) :
    IsNumber (realText x).toList := by
  unfold isFinite at finite
  split at finite
  case h_2 => cases finite
  case h_1 negative m q value =>
    have text : realText x =
        sign negative ++ if m = 0 then "0.0" else scientificText (Decimal.shortest m q) := by
      simp only [realText, value]
    rw [text, String.toList_append]
    refine IsUnsigned.isNumber ?_ negative
    split
    case isTrue =>
      exact ⟨['0'], ['.', '0'], [], rfl, .inl rfl, .inr ⟨['0'], rfl, isDigits_zero⟩, .inl rfl⟩
    case isFalse nonzero =>
      exact isUnsigned_scientificText
        (pos_shortest (Nat.pos_of_ne_zero nonzero) (Binary.leastExponent_le value))

/-- Other doubles are written as `null`. -/
theorem realText_of_not_isFinite {x : Float} (special : isFinite x = false) :
    realText x = "null" := by
  unfold isFinite at special
  unfold realText
  split at special
  case h_1 => cases special
  case h_2 others =>
    split
    case h_3 negative m q value => exact (others negative m q value).elim
    all_goals rfl

end EmbeddingLatency.Json
