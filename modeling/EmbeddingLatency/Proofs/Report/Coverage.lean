import EmbeddingLatency.Proofs.Bench.Successes
import EmbeddingLatency.Proofs.Comparison.Groups
import EmbeddingLatency.Proofs.Comparison.Table
import EmbeddingLatency.Proofs.Report.CsvReading

/-!
# What a report covers

From the units of a run to the rows and groups of its report. A report has the rows of every model
that has been timed on the CPU, one for each query size, with figures of the accelerator where the
model has been timed there too, and it has nothing of any other model.
-/

set_option autoImplicit false

namespace EmbeddingLatency

open Comparison (Occurs)

/-- What the queries of one size to a model are compared by. -/
def ListedModel.key (entry : ListedModel) (query : QuerySize) : ComparisonKey :=
  ⟨entry.modelId, entry.sizeLabel, query⟩

/-- No two entries agree on model and size label. -/
def Catalog.Distinct (catalog : Catalog) : Prop :=
  (catalog.entries.map fun entry => (entry.modelId, entry.sizeLabel)).Nodup

theorem Catalog.Distinct.eq_of_key_eq {catalog : Catalog} (distinct : catalog.Distinct)
    {entry entry' : ListedModel} (listed : entry ∈ catalog.entries)
    (listed' : entry' ∈ catalog.entries) {query query' : QuerySize}
    (same : entry.key query = entry'.key query') : entry = entry' := by
  refine List.inj_on_of_nodup_map distinct listed listed' ?_
  obtain ⟨modelId, sizeLabel, _⟩ := ComparisonKey.mk.inj same
  rw [modelId, sizeLabel]

/-- The queries to one model stand in their own order. -/
theorem ListedModel.increasing_keys (entry : ListedModel) :
    ComparisonKey.Increasing (QuerySize.all.map entry.key) := by
  simp [ComparisonKey.Increasing, QuerySize.all, key, ComparisonKey.sortKey,
    Prod.Lex.toLex_lt_toLex, QuerySize.rank]

namespace Bench

section Yields

variable {good : List Float → Prop} {places : List UnitPlace} {results : List LatencySeries}

theorem Yields.of_mem (yields : Yields good places results) {r : LatencySeries}
    (member : r ∈ results) :
    good r.samples ∧ ∃ entry, (r.device, entry) ∈ places ∧ r.key = entry.key r.query := by
  induction yields with
  | nothing => cases member
  | unit model samples each others ih =>
    rcases List.mem_append.mp member with here | later
    · obtain ⟨query, _, rfl⟩ := List.mem_map.mp here
      exact ⟨each query, model.entry, List.mem_cons_self, rfl⟩
    · obtain ⟨sampled, entry, listed, identity⟩ := ih later
      exact ⟨sampled, entry, List.mem_cons_of_mem _ listed, identity⟩

/-- An identity occurs on a device when its unit there has succeeded. -/
theorem Yields.occurs_iff (yields : Yields good places results) (device : Device)
    (key : ComparisonKey) :
    Occurs results device key ↔ ∃ entry, (device, entry) ∈ places ∧ key = entry.key key.query := by
  constructor
  · rintro ⟨r, member, rfl, rfl⟩
    exact (yields.of_mem member).2
  · rintro ⟨entry, listed, identity⟩
    induction yields with
    | nothing => cases listed
    | unit model samples each others ih =>
      rcases List.mem_cons.mp listed with here | later
      · cases here
        refine ⟨model.result key.query (samples key.query), ?_, rfl, identity.symm⟩
        exact List.mem_append_left _ (List.mem_map_of_mem (QuerySize.mem_all _))
      · obtain ⟨r, member, found⟩ := ih later
        exact ⟨r, List.mem_append_right _ member, found⟩

end Yields

end Bench

namespace Report

open Bench (Backend Campaign Journal Observer UnitPlace Yields requests strainedScript succeeded)

/-- As many samples as the settings ask for; in a dry run it is a single zero. -/
def SampledAs (settings : Settings) (samples : List Float) : Prop :=
  if settings.dryRun then samples = [0.0] else samples.length = settings.chosenIterations

/-- Is the device one that the settings ask for? A dry run stays on the CPU. -/
def RunsOn (settings : Settings) (accelerator : Bool) (device : Device) : Prop :=
  if settings.dryRun then device = .cpu else device ∈ settings.devices.devices accelerator

theorem runsOn_cuda_iff (settings : Settings) (accelerator : Bool) :
    RunsOn settings accelerator .cuda ↔
      settings.dryRun = false ∧ Device.cuda ∈ settings.devices.devices accelerator := by
  cases dry : settings.dryRun <;> simp [RunsOn, dry]

/-- What the report of a run has of the units that have succeeded. -/
structure Coverage (settings : Settings) (catalog : Catalog) (accelerator : Bool)
    (passed : List UnitPlace) (run : Results) : Prop where
  /-- The rows of an entry are one for each query size, or none. -/
  rowsOf : ∀ entry ∈ catalog.entries,
    ((Dataset.ofResults run).rows.map (·.key)).filter (fun key => key = entry.key key.query) =
      if (Device.cpu, entry) ∈ passed then QuerySize.all.map entry.key else []
  /-- There are no other rows. -/
  onlyThese : ∀ row ∈ (Dataset.ofResults run).rows, ∃ entry ∈ catalog.entries,
    (Device.cpu, entry) ∈ passed ∧ row.key = entry.key row.key.query
  /-- A row has figures of the accelerator where its model has been timed there. -/
  accelerated : ∀ row ∈ (Dataset.ofResults run).rows, ∀ entry ∈ catalog.entries,
    row.key = entry.key row.key.query →
      (row.gpu.isSome ↔ settings.dryRun = false ∧
        Device.cuda ∈ settings.devices.devices accelerator ∧
        (Device.cuda, entry) ∈ passed)
  repeated : 1 ≤ settings.chosenIterations
  samples : ∀ r ∈ run.timings, SampledAs settings r.samples ∧ RunsOn settings accelerator r.device
  /-- All query sizes have a group, or none has. -/
  queries : (Dataset.ofResults run).byQuery.map (·.label) =
    if passed.any (·.1 = .cpu) then QuerySize.all else []
  sizesOnce : ((Dataset.ofResults run).bySize.map (·.label)).Nodup
  sizes : ∀ label, label ∈ (Dataset.ofResults run).bySize.map (·.label) ↔
    ∃ entry ∈ catalog.entries, (Device.cpu, entry) ∈ passed ∧ entry.sizeLabel = label
  /-- The CSV text has one record for each row, below the header. -/
  records : readCsv (csv (.ofResults run)) =
    some (csvHeader :: (Dataset.ofResults run).rows.map csvRecord)

section

variable {good : List Float → Prop} {passed : List UnitPlace} {run : Results} {catalog : Catalog}
  (yields : Yields good passed run.timings)

include yields

theorem mem_rowKeys_iff (key : ComparisonKey) :
    key ∈ (Dataset.ofResults run).rows.map (·.key) ↔
      ∃ entry, (Device.cpu, entry) ∈ passed ∧ key = entry.key key.query := by
  rw [← yields.occurs_iff]
  exact Comparison.mem_keys_ofAll_iff

theorem rowsOf_eq (distinct : catalog.Distinct)
    (within : ∀ place ∈ passed, place.2 ∈ catalog.entries)
    {entry : ListedModel} (listed : entry ∈ catalog.entries) :
    ((Dataset.ofResults run).rows.map (·.key)).filter (fun key => key = entry.key key.query) =
      if (Device.cpu, entry) ∈ passed then QuerySize.all.map entry.key else [] := by
  split
  case isTrue timed =>
    refine ComparisonKey.Increasing.eq_of_mem_iff ?_ entry.increasing_keys ?_
    · exact (Comparison.increasing_ofAll run.timings).filter _
    · intro key
      rw [List.mem_filter, mem_rowKeys_iff yields, decide_eq_true_eq, List.mem_map]
      constructor
      · rintro ⟨_, identity⟩
        exact ⟨key.query, QuerySize.mem_all _, identity.symm⟩
      · rintro ⟨query, _, rfl⟩
        exact ⟨⟨entry, timed, rfl⟩, rfl⟩
  case isFalse untimed =>
    rw [List.filter_eq_nil_iff]
    intro key member own
    obtain ⟨other, timed, identity⟩ := (mem_rowKeys_iff yields key).mp member
    have same := distinct.eq_of_key_eq listed (within _ timed)
      ((of_decide_eq_true own).symm.trans identity)
    exact untimed (same ▸ timed)

theorem gpu_isSome_iff (distinct : catalog.Distinct)
    (within : ∀ place ∈ passed, place.2 ∈ catalog.entries) {row : Comparison Float}
    (member : row ∈ (Dataset.ofResults run).rows) {entry : ListedModel}
    (listed : entry ∈ catalog.entries) (own : row.key = entry.key row.key.query) :
    row.gpu.isSome ↔ (Device.cuda, entry) ∈ passed := by
  have shown : Comparison.Shows run.timings row := Comparison.mem_ofAll_iff.mp member
  rw [shown.gpu_isSome_iff, yields.occurs_iff]
  constructor
  · rintro ⟨other, timed, identity⟩
    rwa [distinct.eq_of_key_eq listed (within _ timed) (own.symm.trans identity)]
  · intro timed
    exact ⟨entry, timed, own⟩

/-- What occurs in the rows is what the models say that have been timed on the CPU. -/
theorem mem_map_rowKeys_iff {β : Type} (part : ComparisonKey → β) (b : β) :
    b ∈ (Dataset.ofResults run).rows.map (fun row => part row.key) ↔
      ∃ entry, (Device.cpu, entry) ∈ passed ∧ ∃ query, part (entry.key query) = b := by
  rw [List.mem_map]
  constructor
  · rintro ⟨row, member, rfl⟩
    obtain ⟨entry, timed, identity⟩ :=
      (mem_rowKeys_iff yields row.key).mp (List.mem_map_of_mem member)
    exact ⟨entry, timed, row.key.query, congrArg part identity.symm⟩
  · rintro ⟨entry, timed, query, rfl⟩
    obtain ⟨row, member, identity⟩ := List.mem_map.mp
      ((mem_rowKeys_iff yields (entry.key query)).mpr ⟨entry, timed, rfl⟩)
    exact ⟨row, member, congrArg part identity⟩

theorem labels_byQuery :
    (Dataset.ofResults run).byQuery.map (·.label) =
      if passed.any (·.1 = .cpu) then QuerySize.all else [] := by
  have occurs : ∀ query, query ∈ (Dataset.ofResults run).rows.map (·.key.query) ↔
      passed.any (·.1 = .cpu) = true := by
    intro query
    rw [mem_map_rowKeys_iff yields (·.query)]
    simp [ListedModel.key]
  change (groupsByQuery (Dataset.ofResults run).rows).map (·.label) = _
  rw [labels_groupsByQuery]
  simp only [occurs]
  split <;> simp_all

theorem mem_labels_bySize (label : String) :
    label ∈ (Dataset.ofResults run).bySize.map (·.label) ↔
      ∃ entry, (Device.cpu, entry) ∈ passed ∧ entry.sizeLabel = label := by
  change label ∈ (groupsBySize (Dataset.ofResults run).rows).map (·.label) ↔ _
  rw [mem_labels_groupsBySize, mem_map_rowKeys_iff yields (·.sizeLabel)]
  refine exists_congr fun entry => and_congr_right fun _ => ?_
  exact ⟨fun ⟨_, same⟩ => same, fun same => ⟨.short, same⟩⟩

end

theorem coverage_of_yields {settings : Settings} {catalog : Catalog} {accelerator : Bool}
    {passed : List UnitPlace} {run : Results} (distinct : catalog.Distinct)
    (valid : settings.validate = .ok ()) (yields : Yields (SampledAs settings) passed run.timings)
    (units : ∀ place ∈ passed, place.2 ∈ catalog.entries ∧ RunsOn settings accelerator place.1) :
    Coverage settings catalog accelerator passed run where
  rowsOf := fun entry listed =>
    rowsOf_eq yields distinct (fun place member => (units place member).1) listed
  onlyThese := by
    intro row member
    obtain ⟨entry, timed, own⟩ :=
      (mem_rowKeys_iff yields row.key).mp (List.mem_map_of_mem member)
    exact ⟨entry, (units _ timed).1, timed, own⟩
  accelerated := by
    intro row member entry listed own
    rw [gpu_isSome_iff yields distinct (fun place member => (units place member).1) member
      listed own]
    constructor
    · intro timed
      obtain ⟨measured, available⟩ := (runsOn_cuda_iff _ _).mp (units _ timed).2
      exact ⟨measured, available, timed⟩
    · rintro ⟨_, _, timed⟩
      exact timed
  repeated := settings.validate_eq_ok_iff.mp valid
  samples := by
    intro r member
    obtain ⟨sampled, entry, listed, _⟩ := yields.of_mem member
    exact ⟨sampled, (units _ listed).2⟩
  queries := labels_byQuery yields
  sizesOnce := nodup_labels_groupsBySize _
  sizes := by
    intro label
    rw [mem_labels_bySize yields]
    refine exists_congr fun entry => ?_
    exact ⟨fun ⟨timed, same⟩ => ⟨(units _ timed).1, timed, same⟩,
      fun ⟨_, timed, same⟩ => ⟨timed, same⟩⟩
  records := by
    refine readCsv_csvText ?_
    simp [csvHeader, csvRecord]

/-- **From units to reports.** Whatever the backend answers, a run comes to an end, and its report
    covers the units that have succeeded and nothing else: three rows for each model that has been
    timed on the CPU, figures of the accelerator where the model has been timed there as well, the
    groups of these rows, and a CSV text that is read as one record for each row below the header.
    Every series has as many samples as the settings say. -/
theorem run_is_covered {σ H : Type} (backend : Backend (StateM σ) H)
    (observer : Observer (StateM σ)) {settings : Settings} {catalog : Catalog} {c : Campaign}
    (distinct : catalog.Distinct) (accepted : Campaign.ofSettings settings catalog = .ok c)
    (machine : StateM σ Hardware) (date : StateM σ Timestamp) (world : σ) :
    ∃ results events world',
      (c.run backend observer machine date).run world = (results, world') ∧
      ((c.run backend.journaled observer.journaled (liftM machine) (liftM date)).run
        #[]).run world =
        ((results, events.toArray), world') ∧
      Coverage settings catalog backend.accelerator (succeeded (requests events))
        results := by
  have valid : settings.validate = .ok () := by
    cases answer : settings.validate with
    | ok _ => rfl
    | error fault => simp [Campaign.ofSettings, answer, Except.map] at accepted
  obtain rfl := Campaign.eq_of_ofSettings accepted
  obtain ⟨events, run, first, turns, last, split, whole⟩ :=
    (Campaign.records_run backend observer _ machine date).fromEmpty world
  have asked : requests events = requests turns := by
    rw [split]
    simp [requests, Bench.Event.isRequest]
  obtain ⟨yields, places⟩ := whole.yields fun _ _ _ _ => Campaign.delivers_of_goes
  rw [← asked] at yields places
  refine ⟨_, events, _, rfl, run, coverage_of_yields distinct valid yields ?_⟩
  intro place member
  exact (Campaign.mem_places_iff _ _ place).mp (places.subset member)

/-- A dense model and a sparse one. -/
def twoKinds : Catalog := ⟨[⟨"small", "minilm", .dense⟩, ⟨"sparse-small", "splade", .sparse⟩]⟩

/-- One untimed and one timed call for each query, on all devices. -/
def singleCalls : Settings := { Settings.default with iterations := some 1, warmup := some 1 }

/-- A run in which the dense model is refused by the accelerator and the sparse one fails on the
    CPU. -/
def strainedRun : StateM Unit (Results × Journal) :=
  (Campaign.run strainedScript.backend.journaled Observer.silent.journaled
    ⟨twoKinds, singleCalls.plan, .auto⟩ (pure .unknown) (pure ⟨0, 0⟩)).run #[]

set_option maxRecDepth 1000 in
theorem strainedRun_succeeded :
    succeeded (requests (strainedRun.run ()).1.2.toList) =
      [(.cpu, ⟨"small", "minilm", .dense⟩), (.cuda, ⟨"sparse-small", "splade", .sparse⟩)] := by
  decide +kernel

/-- Its report has the rows of the dense model, without figures of the accelerator, and no rows of
    the sparse one. -/
theorem strainedRun_is_covered :
    ∃ results journal, strainedRun.run () = ((results, journal), ()) ∧
      Coverage singleCalls twoKinds true
        [(.cpu, ⟨"small", "minilm", .dense⟩), (.cuda, ⟨"sparse-small", "splade", .sparse⟩)]
          results := by
  have distinct : twoKinds.Distinct := by
    unfold Catalog.Distinct
    decide
  have accepted : Campaign.ofSettings singleCalls twoKinds =
      .ok ⟨twoKinds, singleCalls.plan, .auto⟩ := rfl
  obtain ⟨results, events, _, _, run, covered⟩ :=
    run_is_covered strainedScript.backend .silent distinct accepted (pure .unknown)
      (pure ⟨0, 0⟩) ()
  have run : strainedRun.run () = ((results, events.toArray), ()) := run
  have passed := strainedRun_succeeded
  rw [run] at passed
  exact ⟨results, _, run, passed ▸ covered⟩

end Report

end EmbeddingLatency
