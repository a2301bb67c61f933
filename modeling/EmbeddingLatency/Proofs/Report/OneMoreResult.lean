import EmbeddingLatency.Proofs.Comparison.Changes
import EmbeddingLatency.Report.Dataset

/-!
# One more result

What a run's data set becomes when one more series arrives. Only the row of its identity, the group
of its query size and the group of its size label may change; everything else stays as it is and
where it is. Which row there is now depends on the device: a series from the CPU makes the row of
its identity, one from the accelerator only completes a row that is there already.
-/

set_option autoImplicit false

namespace EmbeddingLatency

namespace Comparison

variable {results : List LatencySeries} {device : Device} {key : ComparisonKey}

theorem ofKey?_eq_none_iff : ofKey? results key = none ↔ ¬Occurs results .cpu key := by
  rw [ofKey?, Option.map_eq_none_iff, lastResult?_eq_none_iff]

theorem lastResult?_append (results : List LatencySeries) (r : LatencySeries) :
    lastResult? (results ++ [r]) device key =
      if r.device = device ∧ r.key = key then some r else lastResult? results device key := by
  by_cases here : r.device = device ∧ r.key = key <;> simp [lastResult?, here]

/-- Another identity has the row that it had. -/
theorem ofKey?_append_of_ne {r : LatencySeries} (different : key ≠ r.key) :
    ofKey? (results ++ [r]) key = ofKey? results key := by
  have other : ∀ device, ¬(r.device = device ∧ r.key = key) := fun _ same => different same.2.symm
  rw [ofKey?, ofKey?, lastResult?_append, lastResult?_append, if_neg (other _), if_neg (other _)]

/-- A series from the CPU makes the row of its identity, with what the accelerator
    has had so far. -/
theorem ofKey?_append_cpu {r : LatencySeries} (onCpu : r.device = .cpu) :
    ofKey? (results ++ [r]) r.key = some (ofResults r (lastResult? results .cuda r.key)) := by
  simp [ofKey?, lastResult?_append, onCpu]

/-- A series from the accelerator changes what the row of its identity says of the accelerator. -/
theorem ofKey?_append_cuda {r : LatencySeries} (onCuda : r.device = .cuda) :
    ofKey? (results ++ [r]) r.key = (ofKey? results r.key).map fun row =>
      { row with gpu := some r.summary, gpuLoadTime := r.loadTime } := by
  have cpu : lastResult? (results ++ [r]) .cpu r.key = lastResult? results .cpu r.key := by
    simp [lastResult?_append, onCuda]
  have cuda : lastResult? (results ++ [r]) .cuda r.key = some r := by
    simp [lastResult?_append, onCuda]
  rw [ofKey?, ofKey?, cpu, cuda, Option.map_map]
  rfl

/-- The rows that pass a test on their identity are made from the identities that pass it. -/
theorem filter_ofAll (results : List LatencySeries) (p : ComparisonKey → Bool) :
    (ofAll results).filter (fun row => p row.key) =
      (((ofAll results).map (·.key)).filter p).filterMap (ofKey? results) := by
  rw [List.filter_map, List.filterMap_map]
  have each :
      ∀ row ∈ (ofAll results).filter (p ∘ (·.key)), (ofKey? results ∘ (·.key)) row = some row :=
    fun row member => shows_iff.mp (mem_ofAll_iff.mp (List.mem_filter.mp member).1)
  rw [List.filterMap_congr each, List.filterMap_some]
  rfl

/-- The row of an identity, looked up among the rows. -/
theorem find?_ofAll (results : List LatencySeries) (key : ComparisonKey) :
    ((ofAll results).find? fun row => row.key = key) = ofKey? results key := by
  cases found : ofKey? results key with
  | none =>
    rw [List.find?_eq_none]
    intro row member same
    have row_eq := shows_iff.mp (mem_ofAll_iff.mp member)
    rw [of_decide_eq_true same, found] at row_eq
    cases row_eq
  | some row =>
    have identity := key_of_ofKey? found
    have member : row ∈ ofAll results := mem_ofAll_iff.mpr (shows_iff.mpr (identity ▸ found))
    have some : ((ofAll results).find? fun row => row.key = key).isSome :=
      List.find?_isSome.mpr ⟨row, member, decide_eq_true identity⟩
    obtain ⟨other, here⟩ := Option.isSome_iff_exists.mp some
    have row_eq := shows_iff.mp (mem_ofAll_iff.mp (List.mem_of_find?_eq_some here))
    have identity' : other.key = key := by simpa using List.find?_some here
    rw [here, ← row_eq, identity', found]

/-- The rows of all other identities stay as they are. -/
theorem filter_ofAll_append (results : List LatencySeries) (r : LatencySeries) :
    ((ofAll (results ++ [r])).filter fun row => row.key ≠ r.key) =
      (ofAll results).filter fun row => row.key ≠ r.key := by
  have identities : ((ofAll (results ++ [r])).map (·.key)).filter (· ≠ r.key) =
      ((ofAll results).map (·.key)).filter (· ≠ r.key) := by
    refine ((increasing_ofAll _).filter _).eq_of_mem_iff ((increasing_ofAll _).filter _)
      fun key => ?_
    simp only [List.mem_filter, mem_keys_ofAll_iff, decide_eq_true_eq]
    refine and_congr_left fun different => ?_
    rw [← ofKey?_isSome_iff, ← ofKey?_isSome_iff, ofKey?_append_of_ne different]
  rw [filter_ofAll _ (· ≠ r.key), filter_ofAll _ (· ≠ r.key), identities]
  refine List.filterMap_congr fun key member => ofKey?_append_of_ne ?_
  simpa using (List.mem_filter.mp member).2

end Comparison

namespace Report

open Comparison (IsLast Occurs ofAll ofKey? lastResult?)

/-- What one more series makes of the row of its identity. -/
inductive RowChange (earlier : List LatencySeries) (r : LatencySeries) :
    Option (Comparison Float) → Option (Comparison Float) → Prop
  /-- A series from the CPU replaces the row, or is the first one. The new row shows this series and
      the last one that the accelerator has had. -/
  | renewed {old : Option (Comparison Float)} {row : Comparison Float} (onCpu : r.device = .cpu)
      (known : old.isSome ↔ Occurs earlier .cpu r.key)
      (identity : row.key = r.key)
      (figures : row.cpu = r.summary)
      (embeddingDim : row.embeddingDim = r.info.bind (·.embeddingDim))
      (numParameters : row.numParameters = r.info.bind (·.numParameters))
      (maxSeqLength : row.maxSeqLength = r.info.bind (·.maxSeqLength))
      (modelType : row.modelType = r.info.bind (·.modelType))
      (loadTime : row.cpuLoadTime = r.loadTime)
      (accelerator :
        (∃ g, IsLast earlier .cuda r.key g ∧ row.gpu = some g.summary ∧
          row.gpuLoadTime = g.loadTime) ∨
          ¬Occurs earlier .cuda r.key ∧ row.gpu = none ∧ row.gpuLoadTime = none) :
      RowChange earlier r old (some row)
  /-- A series from the accelerator takes its place in the row that there is. -/
  | completed {row : Comparison Float} (onCuda : r.device = .cuda) :
      RowChange earlier r (some row)
        (some { row with gpu := some r.summary, gpuLoadTime := r.loadTime })
  /-- Without a row a series from the accelerator is not shown. -/
  | hidden (onCuda : r.device = .cuda) (untimed : ¬Occurs earlier .cpu r.key) :
      RowChange earlier r none none

/-- What one more series makes of a data set. -/
structure Takes (earlier : List LatencySeries) (r : LatencySeries) (d d' : Dataset) : Prop where
  context : d'.context = d.context
  rows : ∃ old new, RowChange earlier r old new ∧ ChangedTo (·.key) r.key old new d.rows d'.rows
  /-- A row that is new stands where its identity belongs. -/
  inOrder : ComparisonKey.Increasing (d'.rows.map (·.key))
  byQuery : ∃ old new, ChangedTo (·.label) r.query old new d.byQuery d'.byQuery
  bySize : ∃ old new, ChangedTo (·.label) r.sizeLabel old new d.bySize d'.bySize
  /-- The accelerator alone shows nothing. -/
  hidden : r.device = .cuda → ¬Occurs earlier .cpu r.key → d' = d

section

variable {results : List LatencySeries} {r : LatencySeries}

theorem rowChange_append (results : List LatencySeries) (r : LatencySeries) :
    RowChange results r (ofKey? results r.key) (ofKey? (results ++ [r]) r.key) := by
  cases device : r.device with
  | cpu =>
    rw [Comparison.ofKey?_append_cpu device]
    refine .renewed device ?_ rfl rfl rfl rfl rfl rfl rfl ?_
    · rw [Option.isSome_iff_exists, Comparison.ofKey?_isSome_iff]
    · cases found : lastResult? results .cuda r.key with
      | none => exact .inr ⟨Comparison.lastResult?_eq_none_iff.mp found, rfl, rfl⟩
      | some g => exact .inl ⟨g, Comparison.lastResult?_eq_some_iff.mp found, rfl, rfl⟩
  | cuda =>
    rw [Comparison.ofKey?_append_cuda device]
    cases found : ofKey? results r.key with
    | none => exact .hidden device (Comparison.ofKey?_eq_none_iff.mp found)
    | some row => exact .completed device

theorem changedTo_ofAll (results : List LatencySeries) (r : LatencySeries) :
    ChangedTo (·.key) r.key (ofKey? results r.key) (ofKey? (results ++ [r]) r.key) (ofAll results)
      (ofAll (results ++ [r])) := by
  rw [← Comparison.find?_ofAll, ← Comparison.find?_ofAll]
  exact changedTo_of_filter_eq ComparisonKey.sortKey_injective r.key
    (Comparison.increasing_ofAll _) (Comparison.increasing_ofAll _)
    (Comparison.filter_ofAll_append results r).symm

/-- Rows that differ in one identity agree on what has another query size or another size label. -/
theorem filter_label_congr {κ : Type} [DecidableEq κ] (labelOf : ComparisonKey → κ) :
    ((ofAll results).filter fun row => labelOf row.key ≠ labelOf r.key) =
      (ofAll (results ++ [r])).filter fun row => labelOf row.key ≠ labelOf r.key := by
  have others : ∀ rows : List (Comparison Float),
      (rows.filter fun row => labelOf row.key ≠ labelOf r.key) =
        (rows.filter fun row => row.key ≠ r.key).filter
          fun row => labelOf row.key ≠ labelOf r.key := by
    intro rows
    refine (filter_filter_of_imp (fun row different => ?_) rows).symm
    have different : labelOf row.key ≠ labelOf r.key := of_decide_eq_true different
    exact decide_eq_true (ne_of_apply_ne labelOf different)
  rw [others, ← Comparison.filter_ofAll_append, ← others]

theorem changedTo_byQuery (results : List LatencySeries) (r : LatencySeries) :
    ∃ old new, ChangedTo (·.label) r.query old new (groupsByQuery (ofAll results))
      (groupsByQuery (ofAll (results ++ [r]))) :=
  ⟨_, _, changedTo_of_filter_eq (fun _ _ => QuerySize.rank_injective) r.query
    (increasing_labels_groupsByQuery _) (increasing_labels_groupsByQuery _)
    (filter_groupsOf_congr rfl (filter_label_congr (·.query)))⟩

theorem changedTo_bySize (results : List LatencySeries) (r : LatencySeries) :
    ∃ old new, ChangedTo (·.label) r.sizeLabel old new (groupsBySize (ofAll results))
      (groupsBySize (ofAll (results ++ [r]))) := by
  have sameRows : ((ofAll results).filter fun row => row.key.sizeLabel ≠ r.sizeLabel) =
      (ofAll (results ++ [r])).filter fun row => row.key.sizeLabel ≠ r.sizeLabel :=
    filter_label_congr (·.sizeLabel)
  have sameLabels : (sizePlaces.map (·.1) ++ unknownLabels (ofAll results)).filter
        (· ≠ r.sizeLabel) =
      (sizePlaces.map (·.1) ++ unknownLabels (ofAll (results ++ [r]))).filter
        (· ≠ r.sizeLabel) := by
    rw [List.filter_append, List.filter_append, filter_unknownLabels_congr sameRows]
  exact ⟨_, _, changedTo_of_filter_eq sizeOrder_injective r.sizeLabel
    (increasing_labels_groupsBySize _) (increasing_labels_groupsBySize _)
    (filter_groupsOf_congr sameLabels sameRows)⟩

end

/-- **One more result.** A series that is added to a run changes at most the row of its identity
    and the groups of its query size and its size label; all other rows and groups stay as they are
    and where they are. From the CPU it makes the row of its identity, at the place where that
    belongs; from the accelerator it changes what the row says of the accelerator, and without a
    row nothing changes. -/
theorem takes_one_more_result (run : Results) (r : LatencySeries) :
    Takes run.timings r (.ofResults run) (.ofResults (run.add r)) where
  context := rfl
  rows := ⟨_, _, rowChange_append run.timings r, changedTo_ofAll run.timings r⟩
  inOrder := Comparison.increasing_ofAll _
  byQuery := changedTo_byQuery run.timings r
  bySize := changedTo_bySize run.timings r
  hidden := by
    intro onCuda untimed
    have changed := changedTo_ofAll run.timings r
    rw [Comparison.ofKey?_append_cuda onCuda, Comparison.ofKey?_eq_none_iff.mpr untimed] at changed
    rw [Dataset.ofResults, Dataset.ofResults, Results.timings_add, changed.eq]
    rfl

end Report

end EmbeddingLatency
