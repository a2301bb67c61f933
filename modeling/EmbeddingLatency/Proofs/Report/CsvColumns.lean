import EmbeddingLatency.Proofs.Report.Columns
import EmbeddingLatency.Proofs.Report.CsvReading
import Mathlib.Data.List.Forall2

/-!
# The CSV report is read back

Reading the CSV report gives the header and one record for each row, in order, and each record is
that of its row. A cell is empty where the row has no value, and only there, except that the model
and its size label may be empty texts.
-/

set_option autoImplicit false

namespace EmbeddingLatency.Report

open EmbeddingLatency.Decimal (digits digits_ne fixed fixed_ne_empty)

/-- The field of a record in a column. -/
def csvCell (column : String) (fields : List String) : Option String :=
  cellUnder column csvHeader fields

/-- The fields are those of the row, and a field is empty where the row has no value. -/
structure CsvShows (row : Comparison Float) (fields : List String) : Prop where
  exactly : fields = csvRecord row
  width : fields.length = 17
  model : csvCell "model" fields = some row.key.modelId
  size : csvCell "size" fields = some row.key.sizeLabel
  query : csvCell "query_length" fields = some row.key.query.label
  params : csvCell "params" fields = some "" ↔ row.numParameters = none
  embeddingDim : csvCell "embedding_dim" fields = some "" ↔ row.embeddingDim = none
  maxSeqLength : csvCell "max_seq_length" fields = some "" ↔ row.maxSeqLength = none
  cpuLoadTime : csvCell "cpu_load_time_ms" fields = some "" ↔ row.cpuLoadTime = none
  gpuLoadTime : csvCell "gpu_load_time_ms" fields = some "" ↔ row.gpuLoadTime = none
  /-- The CPU is always timed. -/
  cpu : ∀ f : Figure, csvCell (f.column "cpu") fields ≠ some ""
  cpuP99 : csvCell "cpu_p99_ms" fields ≠ some ""
  gpu : ∀ f : Figure, csvCell (f.column "gpu") fields = some "" ↔ row.gpu = none
  gpuP99 : csvCell "gpu_p99_ms" fields = some "" ↔ row.gpu = none
  speedup : csvCell "speedup" fields = some "" ↔ row.speedup = none

section Records

variable (row : Comparison Float)

/-- The three figures of the CPU, and those of the accelerator where there are any. -/
theorem csvCell_cpu (f : Figure) :
    csvCell (f.column "cpu") (csvRecord row) = some (fixed 4 (f.of (figures row.cpu))) := by
  cases f <;> rfl

theorem csvCell_gpu (f : Figure) :
    csvCell (f.column "gpu") (csvRecord row) =
      some (optionalField (fixed 4) ((row.gpu.map figures).map f.of)) := by
  rw [Option.map_map]
  cases f <;> rfl

theorem csvCell_eq_empty_iff {α : Type} {column : String} {fields : List String}
    {write : α → String}
    {value : Option α} (cell : csvCell column fields = some (optionalField write value))
    (filled : ∀ a, write a ≠ "") : csvCell column fields = some "" ↔ value = none := by
  rw [cell, Option.some.injEq]
  exact optionalField_eq_empty_iff filled value

theorem digits_ne_empty (n : Nat) : digits n ≠ "" := digits_ne n (by simp)

theorem csvShows_csvRecord : CsvShows row (csvRecord row) where
  exactly := rfl
  width := length_csvRecord row
  model := rfl
  size := rfl
  query := rfl
  params := csvCell_eq_empty_iff rfl digits_ne_empty
  embeddingDim := csvCell_eq_empty_iff rfl digits_ne_empty
  maxSeqLength := csvCell_eq_empty_iff rfl digits_ne_empty
  cpuLoadTime := csvCell_eq_empty_iff rfl (fixed_ne_empty 1)
  gpuLoadTime := csvCell_eq_empty_iff rfl (fixed_ne_empty 1)
  cpu := fun f empty => by
    rw [csvCell_cpu, Option.some.injEq] at empty
    exact fixed_ne_empty 4 _ empty
  cpuP99 := fun empty => fixed_ne_empty 4 row.cpu.p99 (Option.some.inj empty)
  gpu := fun f => by
    rw [csvCell_eq_empty_iff (csvCell_gpu row f) (fixed_ne_empty 4)]
    simp
  gpuP99 := by
    have cell : csvCell "gpu_p99_ms" (csvRecord row) =
        some (optionalField (fixed 4) (row.gpu.map (·.p99))) := rfl
    rw [csvCell_eq_empty_iff cell (fixed_ne_empty 4)]
    simp
  speedup := csvCell_eq_empty_iff rfl (fixed_ne_empty 2)

end Records

theorem readCsv_csv (d : Dataset) :
    readCsv (csv d) = some (csvHeader :: d.rows.map csvRecord) := by
  refine readCsv_csvText fun fields member => ?_
  rcases List.mem_cons.mp member with rfl | member
  · simp [csvHeader]
  · obtain ⟨row, -, rfl⟩ := List.mem_map.mp member
    simp [csvRecord]

/-- **The CSV report decodes.** Whatever characters the rows hold, the text is read as the
    header and one record of 17 fields for each row, in the order of the rows, with the
    fields of that row. -/
theorem csv_reads_back (d : Dataset) :
    ∃ records, readCsv (csv d) = some (csvHeader :: records) ∧ csvHeader.length = 17 ∧
      csvHeader.Nodup ∧ records.length = d.rows.length ∧ List.Forall₂ CsvShows d.rows records := by
  refine ⟨d.rows.map csvRecord, readCsv_csv d, rfl, by decide, List.length_map _, ?_⟩
  rw [List.forall₂_map_right_iff]
  exact List.forall₂_same.mpr fun row _ => csvShows_csvRecord row

end EmbeddingLatency.Report
