import EmbeddingLatency.Proofs.Comparison.Partition
import Mathlib.Algebra.Order.BigOperators.Group.List
import Mathlib.Algebra.BigOperators.Ring.List

/-!
# Speedups of groups

The speedup of a group is that of its means, not the mean of its rows' speedups. Where every row has
been timed on the accelerator the means are over equally many rows, so the speedup is a quotient of
two sums. A bound for each quotient is a bound for the quotient of the sums (`le_div_sum`,
`div_sum_le`), so the speedup of a group lies among those of its rows.
-/

set_option autoImplicit false

namespace EmbeddingLatency

section Sums

variable {β : Type} {items : List β} {above below : β → ℚ} {bound : ℚ}

theorem sum_map_pos (nonempty : items ≠ []) (positive : ∀ item ∈ items, 0 < below item) :
    0 < (items.map below).sum := by
  apply List.sum_pos
  · simpa using positive
  · simpa using nonempty

theorem le_div_sum (nonempty : items ≠ []) (positive : ∀ item ∈ items, 0 < below item)
    (each : ∀ item ∈ items, bound ≤ above item / below item) :
    bound ≤ (items.map above).sum / (items.map below).sum := by
  rw [le_div_iff₀ (sum_map_pos nonempty positive), ← List.sum_map_mul_left]
  apply List.sum_le_sum
  intro item member
  exact (le_div_iff₀ (positive item member)).mp (each item member)

theorem div_sum_le (nonempty : items ≠ []) (positive : ∀ item ∈ items, 0 < below item)
    (each : ∀ item ∈ items, above item / below item ≤ bound) :
    (items.map above).sum / (items.map below).sum ≤ bound := by
  rw [div_le_iff₀ (sum_map_pos nonempty positive), ← List.sum_map_mul_left]
  apply List.sum_le_sum
  intro item member
  exact (div_le_iff₀ (positive item member)).mp (each item member)

end Sums

/-- Means of equally many samples are in the proportion of the sums. -/
theorem Samples.mean_div_mean {samples samples' : List ℚ}
    (length : samples.length = samples'.length) (nonempty : samples' ≠ []) :
    Samples.mean samples / Samples.mean samples' = samples.sum / samples'.sum := by
  have some : (samples'.length : ℚ) ≠ 0 := by simpa using nonempty
  rw [← length_mul_mean, ← length_mul_mean samples', length, mul_div_mul_left _ _ some]

theorem Samples.mean_pos {samples : List ℚ} (nonempty : samples ≠ []) (positive : 0 < samples.sum) :
    0 < Samples.mean samples := by
  have some : (0 : ℚ) < samples.length := by exact_mod_cast List.length_pos_iff.mpr nonempty
  rw [← length_mul_mean] at positive
  exact (mul_pos_iff_of_pos_left some).mp positive

/-- The row has a mean of the accelerator to divide by. -/
def Comparison.Accelerated (row : Comparison ℚ) : Prop := ∃ mean ∈ row.gpuMean, 0 < mean

/-- The speedup lies between the smallest and the greatest one of some rows, all of which have one,
    and is that of all rows where these agree. -/
structure SpeedupAmong (rows : List (Comparison ℚ)) (s : ℚ) : Prop where
  bounds : ∃ (speedups : List ℚ) (least greatest : ℚ), rows.map (·.speedup) = speedups.map some ∧
    speedups.min? = some least ∧ speedups.max? = some greatest ∧ least ≤ s ∧ s ≤ greatest
  common : ∀ s', (∀ row ∈ rows, row.speedup = some s') → s = s'

section Rows

variable {rows : List (Comparison ℚ)}

/-- The mean of the accelerator that a row has. -/
def Comparison.acceleratedMean (row : Comparison ℚ) : ℚ := row.gpuMean.getD 0

theorem Comparison.Accelerated.positive {row : Comparison ℚ} (accelerated : row.Accelerated) :
    row.gpuMean = some row.acceleratedMean ∧ 0 < row.acceleratedMean := by
  obtain ⟨mean, found, positive⟩ := accelerated
  unfold acceleratedMean
  rw [found, Option.getD_some]
  exact ⟨rfl, positive⟩

theorem Comparison.Accelerated.speedup {row : Comparison ℚ} (accelerated : row.Accelerated) :
    row.speedup = some (row.cpu.mean / row.acceleratedMean) := by
  obtain ⟨found, positive⟩ := accelerated.positive
  rw [Comparison.speedup, found]
  exact if_pos (decide_eq_true positive)

/-- The speedup of a group is that of the sums. -/
theorem speedup_ofRows (nonempty : rows ≠ []) (accelerated : ∀ row ∈ rows, row.Accelerated) :
    (GroupSummary.ofRows rows).speedup =
      some ((rows.map (·.cpu.mean)).sum / (rows.map (·.acceleratedMean)).sum) := by
  have summary := GroupSummary.summarizes_ofRows rows
  have means : rows.filterMap (·.gpuMean) = rows.map (·.acceleratedMean) := by
    rw [← List.filterMap_eq_map]
    exact List.filterMap_congr fun row member => (accelerated row member).positive.1
  have some_means : rows.map (·.acceleratedMean) ≠ [] := by simpa using nonempty
  obtain ⟨figures, found⟩ : ∃ figures, (GroupSummary.ofRows rows).gpu = some figures := by
    apply Option.ne_none_iff_exists'.mp
    intro none
    obtain ⟨row, member⟩ := List.exists_mem_of_ne_nil rows nonempty
    obtain ⟨mean, hasMean, _⟩ := accelerated row member
    rw [Comparison.gpuMean, summary.gpu_eq_none_iff.mp none row member] at hasMean
    cases hasMean
  have gpu : figures.mean = Samples.mean (rows.map (·.acceleratedMean)) := by
    rw [(summary.gpu figures found).mean, map_mean_filterMap_gpu, means]
  have cpu : (GroupSummary.ofRows rows).cpu.mean = Samples.mean (rows.map (·.cpu.mean)) := by
    rw [summary.cpu.mean, List.map_map]
    rfl
  have positive : 0 < figures.mean := by
    rw [gpu]
    apply Samples.mean_pos some_means
    exact sum_map_pos nonempty fun row member => (accelerated row member).positive.2
  have length : (rows.map (·.cpu.mean)).length = (rows.map (·.acceleratedMean)).length := by
    rw [List.length_map, List.length_map]
  rw [GroupSummary.speedup, found, cpu, ← Samples.mean_div_mean length some_means, ← gpu]
  exact if_pos (decide_eq_true positive)

theorem speedupAmong_sums (nonempty : rows ≠ []) (accelerated : ∀ row ∈ rows, row.Accelerated) :
    SpeedupAmong rows ((rows.map (·.cpu.mean)).sum / (rows.map (·.acceleratedMean)).sum) := by
  have positive : ∀ row ∈ rows, 0 < row.acceleratedMean := fun row member =>
    (accelerated row member).positive.2
  constructor
  case bounds =>
    let speedups : List ℚ := rows.map fun row => row.cpu.mean / row.acceleratedMean
    have some_speedups : speedups ≠ [] := by simpa [speedups] using nonempty
    obtain ⟨least, min⟩ := Option.isSome_iff_exists.mp (List.isSome_min?_of_ne_nil some_speedups)
    obtain ⟨greatest, max⟩ := Option.isSome_iff_exists.mp (List.isSome_max?_of_ne_nil some_speedups)
    refine ⟨speedups, least, greatest, ?_, min, max, ?_, ?_⟩
    · rw [List.map_map]
      exact List.map_congr_left fun row member => (accelerated row member).speedup
    · apply le_div_sum nonempty positive
      intro row member
      exact (List.min?_eq_some_iff.mp min).2 _ (List.mem_map_of_mem member)
    · apply div_sum_le nonempty positive
      intro row member
      exact (List.max?_eq_some_iff.mp max).2 _ (List.mem_map_of_mem member)
  case common =>
    intro s same
    have each : ∀ row ∈ rows, row.cpu.mean / row.acceleratedMean = s := by
      intro row member
      exact Option.some.inj ((accelerated row member).speedup.symm.trans (same row member))
    apply le_antisymm
    · exact div_sum_le nonempty positive fun row member => (each row member).le
    · exact le_div_sum nonempty positive fun row member => (each row member).ge

end Rows

/-- **Speedups of groups lie among those of their rows.** A group whose rows have all been timed on
    the accelerator has a speedup, in exact arithmetic. It is not below the smallest speedup of a
    row, not above the greatest, and equal to all of them where they are equal. -/
theorem group_speedup_among_rows {rows : List (Comparison ℚ)} (nonempty : rows ≠ [])
    (accelerated : ∀ row ∈ rows, row.Accelerated) :
    ∃ s, (GroupSummary.ofRows rows).speedup = some s ∧ SpeedupAmong rows s :=
  ⟨_, speedup_ofRows nonempty accelerated, speedupAmong_sums nonempty accelerated⟩

/-- A row with a mean on each device. -/
def meansRow (cpu gpu : ℚ) : Comparison ℚ where
  key := ⟨"minilm", "small", .short⟩
  cpu := ⟨cpu, 0, cpu, cpu, cpu⟩
  gpu := some ⟨gpu, 0, gpu, gpu, gpu⟩
  embeddingDim := none
  numParameters := none
  maxSeqLength := none
  modelType := none
  cpuLoadTime := none
  gpuLoadTime := none

/-- Rows with the speedups 10 and 3. The speedup of their group is not the mean of these. -/
theorem meansRows_speedup_among :
    (GroupSummary.ofRows [meansRow 10 1, meansRow 9 3]).speedup = some (19 / 4) ∧
      SpeedupAmong [meansRow 10 1, meansRow 9 3] (19 / 4) := by
  have accelerated : ∀ row ∈ [meansRow 10 1, meansRow 9 3], row.Accelerated := by
    intro row member
    simp only [List.mem_cons, List.not_mem_nil, or_false] at member
    rcases member with rfl | rfl
    · exact ⟨1, rfl, by norm_num⟩
    · exact ⟨3, rfl, by norm_num⟩
  obtain ⟨s, found, among⟩ := group_speedup_among_rows (List.cons_ne_nil _ _) accelerated
  have value : (GroupSummary.ofRows [meansRow 10 1, meansRow 9 3]).speedup = some (19 / 4) := by
    decide +kernel
  rw [value] at found
  cases found
  exact ⟨value, among⟩

end EmbeddingLatency
