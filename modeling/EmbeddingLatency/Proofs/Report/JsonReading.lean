import EmbeddingLatency.Proofs.Json.Documents
import EmbeddingLatency.Proofs.Report.Columns
import EmbeddingLatency.Proofs.Report.Tenths
import EmbeddingLatency.Report.Json
import Mathlib.Data.List.Forall2

/-!
# The JSON report is read back

Reading the JSON report gives one object for each row and each group, in order, and the objects of
the machine and the settings. Each value stands under its name: texts and whole numbers as they are,
doubles as their tokens, and `null` where there is no value or no finite number. Three of the
doubles are rounded to tenths first (`roundedToTenths`).

The objects are described by what is found in them (`HardwareShown`, `ConfigShown`, `RowShown`,
`GroupShown`); that they have as many members as are described leaves room for no others.
-/

set_option autoImplicit false

namespace EmbeddingLatency.Report

open EmbeddingLatency.Json

/-- What a document says of the machine; the two amounts of memory are rounded to tenths. -/
structure HardwareShown (h : Hardware) (w : Written) : Prop where
  size : w.size = 9
  cpuModel : w.get? "cpu_model" = some (.ofOption .text h.cpuModel)
  cpuCores : w.get? "cpu_cores" = some (.ofOption .count h.cpuCores)
  cpuThreads : w.get? "cpu_threads" = some (.ofOption .count h.cpuThreads)
  ramGb : w.get? "ram_gb" = some (.ofOption .figure (h.ramGb.map tenths))
  gpuModel : w.get? "gpu_model" = some (.ofOption .text h.gpuModel)
  gpuMemoryGb : w.get? "gpu_memory_gb" = some (.ofOption .figure (h.gpuMemoryGb.map tenths))
  gpuDriverVersion : w.get? "gpu_driver_version" = some (.ofOption .text h.gpuDriverVersion)
  cudaVersion : w.get? "cuda_version" = some (.ofOption .text h.cudaVersion)
  runtimeVersion : w.get? "runtime_version" = some (.ofOption .text h.runtimeVersion)

/-- What a document says of the settings. -/
structure ConfigShown (c : RunContext) (w : Written) : Prop where
  size : w.size = 5
  iterations : w.get? "iterations" = some (.count c.plan.iterations)
  warmup : w.get? "warmup" = some (.count c.plan.warmup)
  gpuAvailable : w.get? "gpu_available" = some (.bool c.gpuAvailable)
  mode : w.get? "mode" = some (.text c.plan.mode.name)
  dryRun : w.get? "dry_run" = some (.bool c.plan.dryRun)

/-- What a document says of a row. -/
structure RowShown (row : Comparison Float) (w : Written) : Prop where
  size : w.size = 19
  model : w.get? "model" = some (.text row.key.modelId)
  sizeLabel : w.get? "size" = some (.text row.key.sizeLabel)
  query : w.get? "query_length" = some (.text row.key.query.label)
  params : w.get? "params" = some (.ofOption .count row.numParameters)
  paramsText : w.get? "params_str" = some (.ofOption .text row.paramsText)
  embeddingDim : w.get? "embedding_dim" = some (.ofOption .count row.embeddingDim)
  maxSeqLength : w.get? "max_seq_length" = some (.ofOption .count row.maxSeqLength)
  modelType : w.get? "model_type" = some (.ofOption .text row.modelType)
  cpuLoadTime : w.get? "cpu_load_time_ms" = some (.ofOption .figure row.cpuLoadTime)
  gpuLoadTime : w.get? "gpu_load_time_ms" = some (.ofOption .figure row.gpuLoadTime)
  cpu : ∀ f : Figure, w.get? (f.column "cpu") = some (.figure (f.of (figures row.cpu)))
  cpuP99 : w.get? "cpu_p99_ms" = some (.figure row.cpu.p99)
  gpu : ∀ f : Figure,
    w.get? (f.column "gpu") = some (.ofOption .figure (row.gpu.map fun s => f.of (figures s)))
  gpuP99 : w.get? "gpu_p99_ms" = some (.ofOption .figure (row.gpu.map (·.p99)))
  speedup : w.get? "speedup" = some (.ofOption .figure row.speedup)

/-- What a document says of a group, whose label stands under a name of its own. -/
structure GroupShown (name label : String) (s : GroupSummary Float) (w : Written) : Prop where
  size : w.size = 8
  label : w.get? name = some (.text label)
  cpu : ∀ f : Figure, w.get? (f.column "cpu") = some (.figure (f.of s.cpu))
  gpu : ∀ f : Figure, w.get? (f.column "gpu") = some (.ofOption .figure (s.gpu.map f.of))
  speedup : w.get? "avg_speedup" = some (.ofOption .figure s.speedup)

/-- What a document says of a data set: its rows and groups in their order, and the context. -/
structure DatasetShown (d : Dataset) (w : Written) : Prop where
  size : w.size = 7
  startedAt : w.get? "run_timestamp" = some (.text d.context.startedAt.rfc3339)
  totalRuntime : w.get? "total_runtime_seconds" = some (.figure (tenths d.context.totalRuntime))
  hardware : ∃ h, w.get? "hardware" = some h ∧ HardwareShown d.context.hardware h
  config : ∃ c, w.get? "config" = some c ∧ ConfigShown d.context c
  rows : ∃ rows, w.get? "comparison" = some (.array rows) ∧ List.Forall₂ RowShown d.rows rows
  byQuery : ∃ groups, w.get? "aggregations_by_query_size" = some (.array groups) ∧
    List.Forall₂ (fun g => GroupShown "query_length" g.label.label g.summary) d.byQuery groups
  bySize : ∃ groups, w.get? "aggregations_by_model_size" = some (.array groups) ∧
    List.Forall₂ (fun g => GroupShown "model_size" g.label g.summary) d.bySize groups

section Options

variable {α β : Type}

/-- An option is written as the option of what its value is written as. -/
theorem written_ofOption {f : α → Value} {g : α → Written} (each : ∀ a, (f a).written = g a)
    (value : Option α) : some (Value.ofOption f value).written = some (.ofOption g value) := by
  cases value with
  | none => rfl
  | some a => exact congrArg some (each a)

/-- The figures of an option are those of its value. -/
theorem written_figures (f : α → Float) (value : Option α) :
    some (Value.ofOption (Value.real ∘ f) value).written =
      some (.ofOption .figure (value.map f)) := by
  cases value <;> rfl

theorem written_counts (value : Option Nat) :
    some (Value.ofOption .nat value).written = some (.ofOption .count value) :=
  written_ofOption (fun _ => rfl) value

theorem written_texts (value : Option String) :
    some (Value.ofOption .text value).written = some (.ofOption .text value) :=
  written_ofOption (fun _ => rfl) value

theorem written_reals (value : Option Float) :
    some (Value.ofOption .real value).written = some (.ofOption .figure value) :=
  written_ofOption (fun _ => rfl) value

end Options

theorem hardwareShown_toJson (h : Hardware) : HardwareShown h (h.toJson tenths).written where
  size := rfl
  cpuModel := written_texts h.cpuModel
  cpuCores := written_counts h.cpuCores
  cpuThreads := written_counts h.cpuThreads
  ramGb := written_figures tenths h.ramGb
  gpuModel := written_texts h.gpuModel
  gpuMemoryGb := written_figures tenths h.gpuMemoryGb
  gpuDriverVersion := written_texts h.gpuDriverVersion
  cudaVersion := written_texts h.cudaVersion
  runtimeVersion := written_texts h.runtimeVersion

theorem configShown_configJson (c : RunContext) : ConfigShown c (configJson c).written where
  size := rfl
  iterations := rfl
  warmup := rfl
  gpuAvailable := rfl
  mode := rfl
  dryRun := rfl

theorem rowShown_rowJson (row : Comparison Float) : RowShown row (rowJson row).written where
  size := rfl
  model := rfl
  sizeLabel := rfl
  query := rfl
  params := written_counts row.numParameters
  paramsText := written_texts row.paramsText
  embeddingDim := written_counts row.embeddingDim
  maxSeqLength := written_counts row.maxSeqLength
  modelType := written_texts row.modelType
  cpuLoadTime := written_reals row.cpuLoadTime
  gpuLoadTime := written_reals row.gpuLoadTime
  cpu := fun f => by cases f <;> rfl
  cpuP99 := rfl
  gpu := fun f => by cases f <;> exact written_reals _
  gpuP99 := written_reals _
  speedup := written_reals row.speedup

/-- A group as a JSON object. -/
theorem groupShown_groupMembers {name : String} (own : name = "query_length" ∨ name = "model_size")
    (label : String) (s : GroupSummary Float) :
    GroupShown name label s (Value.object ((name, .text label) :: groupMembers s)).written where
  size := rfl
  label := by rcases own with rfl | rfl <;> rfl
  cpu := fun f => by cases f <;> rfl
  gpu := fun f => by cases f <;> exact written_reals _
  speedup := written_reals s.speedup

/-- What is shown of each element of a list is shown of their array. -/
theorem forall₂_writtenItems {α : Type} {shown : α → Written → Prop} {f : α → Value}
    (each : ∀ a, shown a (f a).written) (as : List α) :
    List.Forall₂ shown as (writtenItems (as.map f)) := by
  rw [writtenItems_eq_map, List.map_map, List.forall₂_map_right_iff]
  exact List.forall₂_same.mpr fun a _ => each a

theorem datasetShown_document (d : Dataset) : DatasetShown d (document d).written where
  size := rfl
  startedAt := rfl
  totalRuntime := rfl
  hardware := ⟨_, rfl, hardwareShown_toJson d.context.hardware⟩
  config := ⟨_, rfl, configShown_configJson d.context⟩
  rows := ⟨_, rfl, forall₂_writtenItems rowShown_rowJson d.rows⟩
  byQuery := ⟨_, rfl, forall₂_writtenItems
    (fun g => groupShown_groupMembers (.inl rfl) g.label.label g.summary) d.byQuery⟩
  bySize := ⟨_, rfl, forall₂_writtenItems
    (fun g => groupShown_groupMembers (.inr rfl) g.label g.summary) d.bySize⟩

section Depth

theorem within_of_isScalar {v : Value} (isScalar : v.IsScalar) (depth : Nat) : v.Within depth := by
  cases v with
  | array items => exact isScalar.elim
  | object members => exact isScalar.elim
  | _ => cases depth <;> trivial

/-- An object of scalars needs its own brackets only. -/
theorem within_object {members : List (String × Value)} (scalars : ∀ m ∈ members, m.2.IsScalar)
    (depth : Nat) : (Value.object members).Within (depth + 1) :=
  fun m member => within_of_isScalar (scalars m member) depth

theorem within_array {α : Type} {f : α → Value} {depth : Nat} (each : ∀ a, (f a).Within depth)
    (as : List α) : (Value.array (as.map f)).Within (depth + 1) := by
  intro v member
  obtain ⟨a, -, rfl⟩ := List.mem_map.mp member
  exact each a

theorem within_hardware (h : Hardware) (depth : Nat) : (h.toJson tenths).Within (depth + 1) := by
  refine within_object ?_ depth
  simp

theorem within_rowJson (row : Comparison Float) (depth : Nat) :
    (rowJson row).Within (depth + 1) := by
  refine within_object ?_ depth
  simp

theorem within_group (name label : String) (s : GroupSummary Float) (depth : Nat) :
    (Value.object ((name, .text label) :: groupMembers s)).Within (depth + 1) := by
  refine within_object ?_ depth
  simp [groupMembers]

/-- The report lies inside of three brackets. -/
theorem within_document (d : Dataset) (depth : Nat) : (document d).Within (depth + 3) := by
  intro m member
  simp only [List.mem_cons, List.not_mem_nil, or_false] at member
  rcases member with rfl | rfl | rfl | rfl | rfl | rfl | rfl
  · exact within_of_isScalar (Value.isScalar_text _) _
  · exact within_of_isScalar (Value.isScalar_real _) _
  · exact within_hardware d.context.hardware _
  · exact within_object (by simp) _
  · exact within_array (fun row => within_rowJson row _) d.rows
  · exact within_array (fun g => within_group _ g.label.label g.summary _) d.byQuery
  · exact within_array (fun g => within_group _ g.label g.summary _) d.bySize

end Depth

/-- **The JSON report decodes.** Whatever characters its texts hold and whichever values are
    missing, the report is a document in which the rows and groups of the data set stand in their
    order, with the context of the run. Its duration and its amounts of memory are rounded to
    tenths. The token of a finite double is a numeral. -/
theorem json_reads_back (d : Dataset) :
    (∃ w, Written.parse (json d) = .ok w ∧ DatasetShown d w) ∧
      (∀ x, RoundedToTenths x (tenths x)) ∧
      ∀ x, Decimal.isFinite x = true → IsNumber (realText x).toList :=
  ⟨⟨_, Written.parse_pretty (within_document d 124), datasetShown_document d⟩,
    roundedToTenths,
    fun _ finite => isNumber_realText finite⟩

end EmbeddingLatency.Report
