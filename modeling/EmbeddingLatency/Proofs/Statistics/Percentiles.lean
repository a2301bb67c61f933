import EmbeddingLatency.Proofs.Statistics.Places

/-!
# The order of percentiles

In exact arithmetic the percentiles of any samples are in order and stay between the smallest and
the largest sample. The median lies around the middle of the sorted samples, an upper percentile at
`i * (n + 1) / parts` or, of too few samples, at the end; the places are compared in each of the
ranges that the two upper percentiles tell apart.
-/

set_option autoImplicit false

namespace EmbeddingLatency.Samples

/-- The percentiles are in order and no place is read that does not exist. -/
structure InOrder (samples : List ℚ) : Prop where
  p50_le_p95 : p50 samples ≤ p95 samples
  p95_le_p99 : p95 samples ≤ p99 samples
  /-- Where there are samples, the percentiles lie between the least and the greatest, which stands
      in for an upper percentile of too few samples. -/
  bounds : samples ≠ [] → ∃ least greatest, samples.min? = some least ∧
    samples.max? = some greatest ∧ least ≤ p50 samples ∧ p99 samples ≤ greatest ∧
    (samples.length < p95Parts → p95 samples = greatest) ∧
    (samples.length < p99Parts → p99 samples = greatest)
  reads : ReadsExist samples

section

variable {samples : List ℚ}

/-- The least sample stands at the first place. -/
theorem min?_eq_first (nonempty : 0 < (sorted samples).length) :
    samples.min? = some (atPlace (sorted samples) 0) := by
  rw [List.min?_eq_some_iff]
  refine ⟨atPlace_mem nonempty, forall_mem_of_places fun place within => ?_⟩
  exact atPlace_le_atPlace (pairwise_sorted samples) (Nat.zero_le place) within

/-- The greatest sample stands at the last place. -/
theorem max?_eq_last (nonempty : 0 < (sorted samples).length) :
    samples.max? = some (atPlace (sorted samples) ((sorted samples).length - 1)) := by
  rw [List.max?_eq_some_iff]
  refine ⟨atPlace_mem (by omega), forall_mem_of_places fun place within => ?_⟩
  exact atPlace_le_atPlace (pairwise_sorted samples) (by omega) (by omega)

/-- The places of the percentiles are in order, whatever the number of samples. -/
theorem places_in_order {n : Nat} (nonempty : 0 < n) :
    n / 2 ≤ (upperPlaces n 19 p95Parts).1 ∧
      (upperPlaces n 19 p95Parts).2 ≤ (upperPlaces n 99 p99Parts).1 ∧
      (upperPlaces n 99 p99Parts).2 ≤ n - 1 := by
  by_cases twenty : p95Parts ≤ n <;> by_cases hundred : p99Parts ≤ n <;>
    simp only [upperPlaces, twenty, hundred, if_true, if_false, Cut.of] <;>
    simp only [p95Parts, p99Parts] at twenty hundred ⊢ <;> omega

/-- Without samples every percentile is zero. -/
theorem inOrder_nil : InOrder [] := by
  have median : p50 ([] : List ℚ) = 0 := by simp [p50, Samples.median, sorted, Scalar.count]
  have upper : ∀ i parts, 0 < parts → upperQuantile (sorted ([] : List ℚ)) i parts = 0 := by
    intro i parts some
    simp [upperQuantile, sorted, atPlace, Scalar.count, some.ne']
  have largest : p95 ([] : List ℚ) = 0 ∧ p99 ([] : List ℚ) = 0 :=
    ⟨upper 19 p95Parts (by decide), upper 99 p99Parts (by decide)⟩
  refine ⟨?_, ?_, fun some => absurd rfl some, readsExist []⟩
  · rw [median, largest.1]
  · rw [largest.1, largest.2]

theorem inOrder_of_nonempty (nonempty : 0 < (sorted samples).length) : InOrder samples := by
  have ordered := pairwise_sorted samples
  have atP50 := between_median ordered nonempty
  have atP95 := between_upperQuantile ordered 19 p95Parts (by decide) (by decide) nonempty
  have atP99 := between_upperQuantile ordered 99 p99Parts (by decide) (by decide) nonempty
  obtain ⟨first, second, third⟩ := places_in_order nonempty
  have last :
      Between (sorted samples) ((sorted samples).length - 1) ((sorted samples).length - 1) _ :=
    .of_eq _ (by omega) rfl
  have start : Between (sorted samples) 0 0 _ := .of_eq _ nonempty rfl
  refine ⟨?_, ?_, fun _ => ⟨_, _, min?_eq_first nonempty, max?_eq_last nonempty, ?_, ?_,
    upperQuantile_of_few, upperQuantile_of_few⟩, readsExist samples⟩
  · exact atP50.le ordered atP95 first
  · exact atP95.le ordered atP99 second
  · exact start.le ordered atP50 (Nat.zero_le _)
  · exact atP99.le ordered last third

end

/-- **The order of percentiles.** Of any fractions the median is at most the 95th percentile and
    that at most the 99th. Of some fractions the median is at least the least and the 99th
    percentile at most the greatest, which is also the 95th percentile of fewer than 20 and the 99th
    of fewer than 100. No place is read that does not exist, neither of fractions nor of doubles. -/
theorem percentiles_in_order :
    (∀ samples : List ℚ, InOrder samples) ∧ ∀ samples : List Float, ReadsExist samples := by
  refine ⟨fun samples => ?_, readsExist⟩
  by_cases nonempty : 0 < (sorted samples).length
  · exact inOrder_of_nonempty nonempty
  · have empty : samples = [] := by
      rw [length_sorted] at nonempty
      exact List.eq_nil_of_length_eq_zero (by omega)
    subst empty
    exact inOrder_nil

end EmbeddingLatency.Samples
