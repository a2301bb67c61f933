import EmbeddingLatency.Proofs.Comparison.Order

/-!
# The table of comparisons

What the rows of a list of results are, said without the way in which they are computed. Of several
results with one identity on one device only the last one counts. An identity has a row when it has
been timed on the CPU, the row shows the last result on either device, and the rows increase
strictly. Only one list of rows is like that.
-/

set_option autoImplicit false

namespace EmbeddingLatency

namespace Comparison

/-- The last of some results on a device with a given identity. -/
structure IsLast (results : List LatencySeries) (device : Device) (key : ComparisonKey)
    (r : LatencySeries) : Prop where
  device_eq : r.device = device
  key_eq : r.key = key
  last : ∃ before after, results = before ++ r :: after ∧
    ∀ later ∈ after, ¬(later.device = device ∧ later.key = key)

/-- Some result on a device has a given identity. -/
def Occurs (results : List LatencySeries) (device : Device) (key : ComparisonKey) : Prop :=
  ∃ r ∈ results, r.device = device ∧ r.key = key

instance (results : List LatencySeries) (device : Device) (key : ComparisonKey) :
    Decidable (Occurs results device key) :=
  inferInstanceAs (Decidable (∃ r ∈ results, r.device = device ∧ r.key = key))

section

variable {results : List LatencySeries} {device : Device} {key : ComparisonKey}

theorem lastResult?_eq_some_iff {r : LatencySeries} :
    lastResult? results device key = some r ↔ IsLast results device key r := by
  rw [lastResult?, List.find?_eq_some_iff_append]
  simp only [Bool.not_eq_true', ← Bool.not_eq_true, Bool.and_eq_true, decide_eq_true_eq]
  constructor
  · rintro ⟨⟨onDevice, identity⟩, after, before, split, others⟩
    refine ⟨onDevice, identity, before.reverse, after.reverse, ?_, ?_⟩
    · simpa using congrArg List.reverse split
    · intro later member
      exact others later (List.mem_reverse.mp member)
  · rintro ⟨onDevice, identity, before, after, rfl, others⟩
    refine ⟨⟨onDevice, identity⟩, after.reverse, before.reverse, by simp, ?_⟩
    intro later member
    exact others later (List.mem_reverse.mp member)

theorem lastResult?_eq_none_iff :
    lastResult? results device key = none ↔ ¬Occurs results device key := by
  rw [lastResult?, List.find?_eq_none]
  simp [Occurs]

theorem lastResult?_eq_getLast? :
    lastResult? results device key =
      (results.filter fun r => r.device = device && r.key = key).getLast? := by
  rw [lastResult?, ← List.head?_filter, List.filter_reverse, List.head?_reverse]

/-- Where an identity occurs, it has a last result. -/
theorem exists_isLast_iff : (∃ r, IsLast results device key r) ↔ Occurs results device key := by
  rw [← not_iff_not, ← lastResult?_eq_none_iff, Option.eq_none_iff_forall_not_mem, not_exists]
  simp only [Option.mem_def, lastResult?_eq_some_iff]

theorem IsLast.occurs {r : LatencySeries} (last : IsLast results device key r) :
    Occurs results device key :=
  exists_isLast_iff.mp ⟨r, last⟩

end

/-- A row shows the last result of its identity on the CPU, and the last one on the accelerator if
    there is any. -/
structure Shows (results : List LatencySeries) (row : Comparison Float) : Prop where
  onCpu : ∃ r, IsLast results .cpu row.key r ∧
    row.cpu = r.summary ∧
    row.embeddingDim = r.info.bind (·.embeddingDim) ∧
    row.numParameters = r.info.bind (·.numParameters) ∧
    row.maxSeqLength = r.info.bind (·.maxSeqLength) ∧
    row.modelType = r.info.bind (·.modelType) ∧
    row.cpuLoadTime = r.loadTime
  onAccelerator :
    (∃ r, IsLast results .cuda row.key r ∧ row.gpu = some r.summary ∧
      row.gpuLoadTime = r.loadTime) ∨
      (¬Occurs results .cuda row.key ∧ row.gpu = none ∧ row.gpuLoadTime = none)

/-- The rows of some results: one for each identity that has been timed on the CPU. -/
structure IsTable (results : List LatencySeries) (rows : List (Comparison Float)) : Prop where
  once : ∀ key, (rows.map (·.key)).count key = if Occurs results .cpu key then 1 else 0
  shows : ∀ row ∈ rows, Shows results row
  increasing : ComparisonKey.Increasing (rows.map (·.key))

section

variable {results : List LatencySeries} {rows : List (Comparison Float)} {row : Comparison Float}

theorem Shows.gpu_isSome_iff (shown : Shows results row) :
    row.gpu.isSome ↔ Occurs results .cuda row.key := by
  rcases shown.onAccelerator with ⟨r, last, figures, _⟩ | ⟨never, figures, _⟩
  · simp [figures, last.occurs]
  · simp [figures, never]

theorem key_of_ofKey? {key : ComparisonKey} (found : ofKey? results key = some row) :
    row.key = key := by
  obtain ⟨cpu, last, rfl⟩ := Option.map_eq_some_iff.mp found
  exact (lastResult?_eq_some_iff.mp last).key_eq

theorem shows_iff : Shows results row ↔ ofKey? results row.key = some row := by
  rw [ofKey?, Option.map_eq_some_iff]
  constructor
  · rintro ⟨⟨cpu, last, figures, dim, parameters, limit, type, cpuLoad⟩, accelerator⟩
    refine ⟨cpu, lastResult?_eq_some_iff.mpr last, ?_⟩
    have identity := last.key_eq
    rcases accelerator with ⟨gpu, lastGpu, gpuFigures, gpuLoad⟩ | ⟨never, gpuFigures, gpuLoad⟩
    · rw [lastResult?_eq_some_iff.mpr lastGpu]
      cases row
      simp_all [ofResults]
    · rw [lastResult?_eq_none_iff.mpr never]
      cases row
      simp_all [ofResults]
  · rintro ⟨cpu, last, same⟩
    have lastCpu := lastResult?_eq_some_iff.mp last
    refine ⟨⟨cpu, lastCpu, ?_⟩, ?_⟩
    · rw [← same]
      simp [ofResults]
    · cases found : lastResult? results .cuda row.key with
      | none =>
        refine .inr ⟨lastResult?_eq_none_iff.mp found, ?_⟩
        rw [← same, found]
        simp [ofResults]
      | some gpu =>
        refine .inl ⟨gpu, lastResult?_eq_some_iff.mp found, ?_⟩
        rw [← same, found]
        simp [ofResults]

theorem ofKey?_isSome_iff {key : ComparisonKey} :
    (∃ row, ofKey? results key = some row) ↔ Occurs results .cpu key := by
  rw [← exists_isLast_iff]
  simp [ofKey?, lastResult?_eq_some_iff]

theorem mem_ofAll_iff : row ∈ ofAll results ↔ Shows results row := by
  rw [shows_iff, ofAll, List.mem_mergeSort, List.mem_filterMap]
  constructor
  · rintro ⟨key, _, found⟩
    rw [key_of_ofKey? found]
    exact found
  · intro found
    obtain ⟨r, member, _, identity⟩ := ofKey?_isSome_iff.mp ⟨row, found⟩
    refine ⟨row.key, ?_, found⟩
    rw [keys, mem_distinct, ← identity]
    exact List.mem_map_of_mem member

theorem mem_keys_ofAll_iff {key : ComparisonKey} :
    key ∈ (ofAll results).map (·.key) ↔ Occurs results .cpu key := by
  rw [List.mem_map, ← ofKey?_isSome_iff]
  constructor
  · rintro ⟨row, member, rfl⟩
    exact ⟨row, shows_iff.mp (mem_ofAll_iff.mp member)⟩
  · rintro ⟨row, found⟩
    have identity := key_of_ofKey? found
    exact ⟨row, mem_ofAll_iff.mpr (shows_iff.mpr (identity ▸ found)), identity⟩

/-- Before they are sorted, the rows have different identities already. -/
theorem nodup_keys_filterMap (results : List LatencySeries) :
    (((keys results).filterMap (ofKey? results)).map (·.key)).Nodup := by
  have same : ∀ keys : List ComparisonKey,
      (keys.filterMap (ofKey? results)).map (·.key) =
        keys.filter fun key => (ofKey? results key).isSome := by
    intro keys
    induction keys with
    | nil => rfl
    | cons key rest ih =>
      cases found : ofKey? results key with
      | none => simp [found, ih]
      | some row => simp [found, ih, key_of_ofKey? found]
  rw [same]
  exact (nodup_distinct _).filter _

theorem increasing_ofAll (results : List LatencySeries) :
    ComparisonKey.Increasing ((ofAll results).map (·.key)) := by
  have sorted : (ofAll results).Pairwise fun a b => a.key.le b.key := by
    refine List.pairwise_mergeSort ?_ ?_ _
    · intro a b c first second
      rw [ComparisonKey.le_iff] at first second ⊢
      exact first.trans second
    · intro a b
      rw [Bool.or_eq_true, ComparisonKey.le_iff, ComparisonKey.le_iff]
      exact le_total _ _
  have nodup : ((ofAll results).map (·.key)).Nodup :=
    ((List.mergeSort_perm _ _).map _).nodup_iff.mpr (nodup_keys_filterMap results)
  rw [List.Nodup, List.pairwise_map] at nodup
  rw [ComparisonKey.Increasing, List.pairwise_map]
  refine (sorted.and nodup).imp ?_
  rintro a b ⟨before, different⟩
  refine lt_of_le_of_ne ((ComparisonKey.le_iff _ _).mp before) ?_
  exact fun same => different (ComparisonKey.sortKey_injective same)

theorem isTable_ofAll (results : List LatencySeries) : IsTable results (ofAll results) where
  once := by
    intro key
    rw [(increasing_ofAll results).nodup.count, if_congr mem_keys_ofAll_iff rfl rfl]
  shows := fun _ => mem_ofAll_iff.mp
  increasing := increasing_ofAll results

theorem IsTable.mem_keys_iff (table : IsTable results rows) {key : ComparisonKey} :
    key ∈ rows.map (·.key) ↔ Occurs results .cpu key := by
  rw [← List.count_pos_iff, table.once]
  split_ifs with timed <;> simp [timed]

/-- The identities of a table and its results determine its rows. -/
theorem IsTable.filterMap_keys (table : IsTable results rows) :
    (rows.map (·.key)).filterMap (ofKey? results) = rows := by
  rw [List.filterMap_map]
  have each : ∀ row ∈ rows, (ofKey? results ∘ (·.key)) row = some row :=
    fun row member => shows_iff.mp (table.shows row member)
  rw [List.filterMap_congr each, List.filterMap_some]

theorem IsTable.unique {rows' : List (Comparison Float)} (table : IsTable results rows)
    (table' : IsTable results rows') : rows = rows' := by
  have same : rows.map (·.key) = rows'.map (·.key) :=
    table.increasing.eq_of_mem_iff table'.increasing fun key =>
      table.mem_keys_iff.trans table'.mem_keys_iff.symm
  rw [← table.filterMap_keys, same, table'.filterMap_keys]

end

/-- A ratio is given exactly where the accelerator has a positive mean. -/
theorem speedup_eq_some_iff {row : Comparison Float} {ratio : Float} :
    row.speedup = some ratio ↔
      ∃ mean, row.gpuMean = some mean ∧ 0.0 < mean ∧ ratio = row.cpu.mean / mean := by
  cases measured : row.gpuMean with
  | none => simp [speedup, EmbeddingLatency.speedup, measured]
  | some mean =>
    by_cases positive : 0.0 < mean
    · simp [speedup, EmbeddingLatency.speedup, measured, Scalar.isPositive, positive, eq_comm]
    · simp [speedup, EmbeddingLatency.speedup, measured, Scalar.isPositive, positive]

/-- **The comparison table.** The rows of any results are one for each identity that has been timed
    on the CPU and no others, each with the last results of its identity, in strictly increasing
    order; no other list of rows is like that. A row has a speedup exactly when its accelerator has
    a positive mean, and size labels without a place come after all that have one. -/
theorem ofAll_is_the_table (results : List LatencySeries) :
    (∀ rows, IsTable results rows ↔ rows = ofAll results) ∧
      (∀ row ∈ ofAll results, ∀ ratio, row.speedup = some ratio ↔
        ∃ mean, row.gpuMean = some mean ∧ 0.0 < mean ∧ ratio = row.cpu.mean / mean) ∧
      ∀ known other, isKnownSize known = true → isKnownSize other = false →
        sizePlace known < sizePlace other := by
  refine ⟨?_, ?_, ?_⟩
  · intro rows
    constructor
    · intro table
      exact table.unique (isTable_ofAll results)
    · rintro rfl
      exact isTable_ofAll results
  · intro row _ ratio
    exact speedup_eq_some_iff
  · intro known other listed unlisted
    exact sizePlace_known_lt_unknown listed unlisted

end Comparison

end EmbeddingLatency
