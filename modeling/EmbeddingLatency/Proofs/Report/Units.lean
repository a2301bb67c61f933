import EmbeddingLatency.Model.Facts
import EmbeddingLatency.Proofs.Decimal.FixedPlaces
import EmbeddingLatency.Proofs.Decimal.WholeNumbers
import EmbeddingLatency.Proofs.Report.Columns
import EmbeddingLatency.Report.Cells

/-!
# Units are chosen before rounding

A load time is shown in milliseconds below a second, a duration in seconds below a minute, and a
number of parameters in millions below a billion. All three limits are tested on the exact value,
and the figure is rounded for display afterwards. Just below a limit, rounding reaches it, and the
figure that is shown belongs to the next unit: `1000ms`, `60.0s` and `1000M`. The main result
(`figure_below_limit_iff`) says for which values this is so.

For durations this rests on arithmetic with doubles that could be off: a quotient by sixty, its
whole part, a product and a difference. Below `2 ^ 53` seconds, what is left behind the whole
minutes is exact (`exact_secondsLeft`).
-/

set_option autoImplicit false

namespace EmbeddingLatency.Report

open EmbeddingLatency.Decimal

/-- What is left of a number of seconds behind the whole minutes. -/
def secondsLeft (seconds : Float) : Float := seconds - Decimal.floor (seconds / 60.0) * 60.0

/-- The text shows a number of seconds, given in tenths, alone or behind a number of minutes. -/
def ShowsSeconds (text : String) (tenths : Nat) : Prop :=
  text = pointed 1 tenths ++ "s" ∨ ∃ minutes, text = minutes ++ "m " ++ (pointed 1 tenths ++ "s")

section Constants

theorem exact_sixty : exact 60.0 = some 60 := by decide +kernel

theorem exact_thousand : exact 1000.0 = some 1000 := by decide +kernel

theorem exact_million : exact 1000000.0 = some 1000000 := by decide +kernel

end Constants

section Figures

/-- A figure with its unit behind it is below an even limit exactly if the double is more than half
    a unit of the last place below it. -/
theorem figure_lt_iff (places : Nat) (x : Float) (unit : String) {k : Nat} (even : k % 2 = 0)
    (filled : 0 < k) :
    (∀ n, fixed places x ++ unit = pointed places n ++ unit → n < k) ↔
      ∀ v, exact x = some v → v * 10 ^ places < k - 1 / 2 := by
  rw [← fixed_lt_iff places x even filled]
  simp only [String.append_left_inj]

end Figures

section LoadTimes

/-- Milliseconds stay below 1000, except in the last half of one. -/
theorem loadTimeText_lt_iff {ms : Float} {v : ℚ} (known : exact ms = some v) :
    (∀ n, loadTimeText (some ms) = digits n ++ "ms" → n < 1000) ↔ ¬(1999 / 2 ≤ v ∧ v < 1000) := by
  have limit : (1000.0 ≤ ms) ↔ 1000 ≤ v := le_iff_exact exact_thousand known
  rw [loadTimeText]
  split
  case isTrue seconds =>
    constructor
    · rintro - ⟨-, below⟩
      have above := limit.mp seconds
      linarith
    · intro _ n shown
      exfalso
      have letter : 'm' ∈ (fixed 1 (ms / 1000.0)).toList := by
        have text :
            (fixed 1 (ms / 1000.0)).toList ++ ['s'] = (Nat.toDigits 10 n ++ ['m']) ++ ['s'] := by
          have chars := congrArg String.toList shown
          simpa [digits] using chars
        rw [List.append_cancel_right text]
        simp
      exact not_mem_fixed (by decide) (by decide) 1 _ letter
  case isFalse milliseconds =>
    have figure := figure_lt_iff 0 ms "ms" (k := 1000) (by decide) (by decide)
    simp only [pointed_zero, known, Option.some_inj, forall_eq'] at figure
    rw [figure]
    constructor
    · rintro small ⟨large, -⟩
      norm_num at small
      linarith
    · intro outside
      norm_num
      by_contra large
      exact outside ⟨not_lt.mp large, not_le.mp (mt limit.mpr milliseconds)⟩

end LoadTimes

section Durations

/-- The whole minutes of a duration are found in spite of the rounding of the quotient. -/
theorem exact_minutes {s : Float} {v : ℚ} (known : exact s = some v) (nonneg : 0 ≤ v)
    (short : v < 2 ^ 53) :
    ∃ minutes : Nat, 60 * (minutes : ℚ) ≤ v ∧ v < 60 * minutes + 60 ∧
      exact (Decimal.floor (s / 60.0)) = some (minutes : ℚ) := by
  have bounded : v / 60 < 2 ^ 53 * 2 ^ (0 : Int) := by
    norm_num at short ⊢
    linarith
  obtain ⟨r, quotient, nearest⟩ := exact_div known exact_sixty nonneg (by norm_num)
    (by decide) (by decide) bounded
  -- The quotient does not fall below the whole minutes,
  have minutes : (⌊v / 60⌋₊ : ℚ) ≤ v / 60 := Nat.floor_le (by positivity)
  have atLeast : (⌊v / 60⌋₊ : ℚ) ≤ r := by
    have whole : ((⌊v / 60⌋₊ : Nat) : Int) * (2 : ℚ) ^ (0 : Int) ≤ v / 60 := by simpa using minutes
    simpa using nearest.ge_of_ge (by decide) bounded whole
  -- and does not reach the next minute, which is at least a unit of the duration away.
  have below : r < ⌊v / 60⌋₊ + 1 := by
    obtain ⟨j, p, fine, least, value, bits⟩ := exists_unit known nonneg short
    have next : v < (60 * (⌊v / 60⌋₊ + 1) : Nat) := by
      have above := Nat.lt_floor_add_one (v / 60)
      push_cast
      linarith
    have apart : v + 2 ^ p ≤ (60 * (⌊v / 60⌋₊ + 1) : Nat) := by
      rw [value] at next ⊢
      exact add_unit_le fine next
    apply nearest.lt_of_add_lt
    · have none : (0 : ℚ) ≤ ⌊v / 60⌋₊ := Nat.cast_nonneg _
      linarith
    · push_cast at apart
      linarith
  obtain ⟨k, floored, lower, upper⟩ := exact_floor quotient (le_trans (by positivity) atLeast)
  have same : k = ⌊v / 60⌋₊ := by
    have first : (k : ℚ) < ⌊v / 60⌋₊ + 1 := lt_of_le_of_lt lower below
    have second : (⌊v / 60⌋₊ : ℚ) < k + 1 := lt_of_le_of_lt atLeast upper
    norm_cast at first second
    omega
  have above := Nat.lt_floor_add_one (v / 60)
  refine ⟨k, ?_, ?_, floored⟩
  · rw [same]
    linarith
  · rw [same]
    linarith

/-- What is left behind the whole minutes is exact: the product and the difference
    are not rounded. -/
theorem exact_secondsLeft {s : Float} {v : ℚ} (known : exact s = some v) (nonneg : 0 ≤ v)
    (short : v < 2 ^ 53) :
    ∃ minutes : Nat, 60 * (minutes : ℚ) ≤ v ∧ v < 60 * minutes + 60 ∧
      exact (secondsLeft s) = some (v - 60 * minutes) := by
  obtain ⟨minutes, below, above, floored⟩ := exact_minutes known nonneg short
  refine ⟨minutes, below, above, ?_⟩
  have fits : (minutes : ℚ) * 60 < 2 ^ 53 * 2 ^ (0 : Int) := by
    norm_num at short ⊢
    linarith
  obtain ⟨r, product, nearest⟩ := exact_mul floored exact_sixty (by positivity) (by norm_num)
    (by decide) (by decide) fits
  have whole : (minutes : ℚ) * 60 = ((minutes * 60 : Int) : ℚ) * 2 ^ (0 : Int) := by
    push_cast
    ring
  rw [nearest.eq (by decide) fits whole] at product
  obtain ⟨j, p, fine, least, value, bits⟩ := exists_unit known nonneg short
  have fits : v - minutes * 60 < 2 ^ 53 * 2 ^ p := by
    have positive : (0 : ℚ) ≤ minutes * 60 := by positivity
    linarith
  obtain ⟨r', difference, nearest'⟩ := exact_sub known product (by positivity) (by linarith)
    least (lt_of_le_of_lt fine (by decide)) fits
  obtain ⟨i, grid⟩ := exists_multiple (j := minutes * 60) fine
  have left : v - minutes * 60 = ((j - i : Int) : ℚ) * 2 ^ p := by
    rw [whole, grid, value]
    push_cast
    ring
  rw [nearest'.eq least fits left, mul_comm] at difference
  exact difference

/-- The seconds that are shown are what is left behind the whole minutes. -/
theorem showsSeconds_runtimeText (s : Float) (tenths : Nat) :
    ShowsSeconds (runtimeText s) tenths ↔ fixed 1 (secondsLeft s) = pointed 1 tenths := by
  have noBlank (places : Nat) (x : Float) : ' ' ∉ (fixed places x).toList :=
    not_mem_fixed (by decide) (by decide) places x
  have blankBehind (front rest : String) : ' ' ∈ (front ++ "m " ++ rest).toList := by simp
  have parts : runtimeText s =
      if 0.0 < Decimal.floor (s / 60.0) then
        fixed 0 (Decimal.floor (s / 60.0)) ++ "m " ++ (fixed 1 (secondsLeft s) ++ "s")
      else fixed 1 (secondsLeft s) ++ "s" := rfl
  rw [ShowsSeconds, parts]
  split
  case isTrue =>
    constructor
    · rintro (alone | ⟨minutes, behind⟩)
      · have blank :=
          blankBehind (fixed 0 (Decimal.floor (s / 60.0))) (fixed 1 (secondsLeft s) ++ "s")
        rw [alone, String.toList_append, List.mem_append] at blank
        rcases blank with figure | unit
        · exact absurd (mem_pointed figure) (by decide)
        · exact absurd unit (by decide)
      · have chars : ((fixed 0 (Decimal.floor (s / 60.0))).toList ++ ['m']) ++
            ' ' :: ((fixed 1 (secondsLeft s)).toList ++ ['s']) =
              (minutes.toList ++ ['m']) ++ ' ' :: ((pointed 1 tenths).toList ++ ['s']) := by
          have lists := congrArg String.toList behind
          simpa using lists
        rw [List.append_cons_inj_of_notMem (by simp [noBlank]) (by simp [noBlank])] at chars
        obtain ⟨-, -, seconds⟩ := chars
        exact String.toList_inj.mp (List.append_cancel_right seconds)
    · intro same
      rw [same]
      exact .inr ⟨_, rfl⟩
  case isFalse =>
    constructor
    · rintro (alone | ⟨minutes, behind⟩)
      · exact (String.append_left_inj _).mp alone
      · have blank := blankBehind minutes (pointed 1 tenths ++ "s")
        rw [← behind, String.toList_append, List.mem_append] at blank
        rcases blank with figure | unit
        · exact absurd figure (noBlank 1 _)
        · exact absurd unit (by decide)
    · intro same
      rw [same]
      exact .inl rfl

/-- The seconds that are shown stay below sixty exactly if the rest behind the whole minutes is far
    enough below it. -/
theorem runtimeText_lt_iff (s : Float) :
    (∀ tenths, ShowsSeconds (runtimeText s) tenths → tenths < 600) ↔
      ∀ rest, exact (secondsLeft s) = some rest → rest < 1199 / 20 := by
  simp only [showsSeconds_runtimeText]
  rw [fixed_lt_iff 1 (secondsLeft s) (by decide) (by decide)]
  constructor
  · intro below rest known
    have tenths := below rest known
    norm_num at tenths
    linarith
  · intro below rest known
    have seconds := below rest known
    norm_num
    linarith

end Durations

section Parameters

/-- Millions stay below 1000, except in the last half of one. -/
theorem paramsText_lt_iff (n : Nat) :
    (∀ k, paramsText n = digits k ++ "M" → k < 1000) ↔ ¬(999500000 ≤ n ∧ n < 1000000000) := by
  unfold paramsText
  split
  case isTrue billions =>
    constructor
    · rintro - ⟨-, below⟩
      omega
    · intro _ k shown
      exact absurd shown (append_ne (by simp) (by decide))
  case isFalse millions =>
    have whole := exact_ofNat (n := n) (by omega)
    have small : (n : ℚ) < 1000000000 := by exact_mod_cast not_le.mp millions
    have fits : (n : ℚ) / 1000000 < 2 ^ 53 * 2 ^ (-1 : Int) := by
      norm_num
      linarith
    obtain ⟨r, quotient, nearest⟩ := exact_div whole exact_million (by positivity) (by norm_num)
      (by decide) (by decide) fits
    have figure := figure_lt_iff 0 (ofNat n / 1000000.0) "M" (k := 1000) (by decide) (by decide)
    simp only [pointed_zero, quotient, Option.some_inj, forall_eq'] at figure
    rw [figure]
    constructor
    · rintro below ⟨large, -⟩
      have cast : (999500000 : ℚ) ≤ n := by exact_mod_cast large
      have reached : ((1999 : Int) : ℚ) * 2 ^ (-1 : Int) ≤ r := by
        apply nearest.ge_of_ge (by decide) fits
        norm_num
        linarith
      norm_num at reached below
      linarith
    · intro outside
      have cast : (n : ℚ) ≤ 999499999 := by
        have order : n ≤ 999499999 := by omega
        exact_mod_cast order
      have below : r < 1999 / 2 := by
        apply nearest.lt_of_add_lt (by norm_num)
        linarith
      norm_num
      exact below

end Parameters

/-- **A figure belongs to the next unit just below a limit, and nowhere else.** A load time in
    milliseconds stays below 1000 except in the last half millisecond before a second, a number of
    millions except in the last half million before a billion, and seconds stay below 60.0 except if
    the rest behind the whole minutes is in the last twentieth of a second. That rest is exact below
    `2 ^ 53` seconds. -/
theorem figure_below_limit_iff {ms s : Float} {v w : ℚ} (load : exact ms = some v)
    (duration : exact s = some w) (nonneg : 0 ≤ w) (n : Nat) :
    ((∀ k, loadTimeText (some ms) = digits k ++ "ms" → k < 1000) ↔ ¬(1999 / 2 ≤ v ∧ v < 1000)) ∧
    ((∀ tenths, ShowsSeconds (runtimeText s) tenths → tenths < 600) ↔
      ∀ rest, exact (secondsLeft s) = some rest → rest < 1199 / 20) ∧
    (w < 2 ^ 53 → ∃ minutes : Nat, 60 * (minutes : ℚ) ≤ w ∧ w < 60 * minutes + 60 ∧
      exact (secondsLeft s) = some (w - 60 * minutes)) ∧
    ((∀ k, paramsText n = digits k ++ "M" → k < 1000) ↔ ¬(999500000 ≤ n ∧ n < 1000000000)) := by
  refine ⟨loadTimeText_lt_iff load, runtimeText_lt_iff s, ?_, paramsText_lt_iff n⟩
  intro short
  exact exact_secondsLeft duration nonneg short

theorem ordinary_figures :
    (∀ k, loadTimeText (some 250.0) = digits k ++ "ms" → k < 1000) ∧
    (∀ tenths, ShowsSeconds (runtimeText 192.5) tenths → tenths < 600) ∧
    (∀ k, paramsText 110000000 = digits k ++ "M" → k < 1000) ∧
    loadTimeText (some 250.0) = "250ms" ∧ runtimeText 192.5 = "3m 12.5s" ∧
    paramsText 110000000 = "110M" := by
  have load : exact 250.0 = some 250 := by decide +kernel
  have duration : exact 192.5 = some (385 / 2) := by decide +kernel
  obtain ⟨loadTimes, durations, rests, parameters⟩ :=
    figure_below_limit_iff load duration (by norm_num) 110000000
  refine ⟨?_, ?_, ?_, by decide +kernel, by decide +kernel, by decide +kernel⟩
  · exact loadTimes.mpr (by norm_num)
  · obtain ⟨minutes, below, above, left⟩ := rests (by norm_num)
    apply durations.mpr
    intro rest known
    obtain rfl : 385 / 2 - 60 * (minutes : ℚ) = rest := Option.some.inj (left.symm.trans known)
    have three : (3 : ℚ) ≤ minutes := by
      have more : (2 : ℚ) < minutes := by linarith
      exact_mod_cast more
    linarith
  · exact parameters.mpr (by decide)

/-- Each of the three limits is reached by a value below it. -/
theorem limits_reached :
    ¬(∀ (ms : Float) (v : ℚ), exact ms = some v → 0 ≤ v →
      ∀ n, loadTimeText (some ms) = digits n ++ "ms" → n < 1000) ∧
    ¬(∀ (s : Float) (v : ℚ), exact s = some v → 0 ≤ v →
      ∀ tenths, ShowsSeconds (runtimeText s) tenths → tenths < 600) ∧
    ¬(∀ n < 2 ^ 64, ∀ k, paramsText n = digits k ++ "M" → k < 1000) := by
  refine ⟨fun all => ?_, fun all => ?_, fun all => ?_⟩
  · obtain ⟨v, known, nonneg⟩ := (Option.any_eq_true (0 ≤ ·) (exact 999.7)).mp (by decide +kernel)
    exact absurd (all 999.7 v known (of_decide_eq_true nonneg) 1000 (by decide +kernel)) (by decide)
  · obtain ⟨v, known, nonneg⟩ := (Option.any_eq_true (0 ≤ ·) (exact 119.97)).mp (by decide +kernel)
    have shown : runtimeText 119.97 = "1" ++ "m " ++ (pointed 1 600 ++ "s") := by decide +kernel
    exact absurd (all 119.97 v known (of_decide_eq_true nonneg) 600 (.inr ⟨"1", shown⟩)) (by decide)
  · exact absurd (all 999600000 (by decide) 1000 (by decide +kernel)) (by decide)

end EmbeddingLatency.Report
