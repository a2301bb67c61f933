import EmbeddingLatency.Proofs.Report.CsvColumns
import EmbeddingLatency.Proofs.Report.JsonReading
import EmbeddingLatency.Report.Console
import EmbeddingLatency.Report.Markdown

/-!
# The reports show the same rows

The four reports lay out the rows of a data set in columns of their own. `RowViews` is what each of
them has for one row: the object and the record that are read back from the data files, and the
cells of the two tables. `RowViews.Agree` says column by column that they show the same row.

In JSON a figure is `null` where there is none, but also where it is no finite number; so the marks
for missing values agree only if all figures are finite.
-/

set_option autoImplicit false

namespace EmbeddingLatency.Report

open EmbeddingLatency.Decimal (digits fixed fixed_ne_empty isFinite)
open EmbeddingLatency.Json

/-- What stands behind the last slash of a text, and the whole text if it has none. -/
def IsLastSegment (text segment : String) : Prop :=
  '/' ∉ segment.toList ∧ (text = segment ∨ ∃ owner, text = owner ++ "/" ++ segment)

/-- The text holds the other one in one piece. -/
def Holds (text piece : String) : Prop := ∃ before after, text = before ++ piece ++ after

/-- The figures of a device are finite. -/
structure SummaryFinite (s : LatencySummary Float) : Prop where
  figures : ∀ f : Figure, isFinite (f.of (figures s)) = true
  p99 : isFinite s.p99 = true

/-- The load times, the figures and the speedup of a row are finite where there are any. -/
structure RowFinite (row : Comparison Float) : Prop where
  cpuLoadTime : ∀ x ∈ row.cpuLoadTime, isFinite x = true
  gpuLoadTime : ∀ x ∈ row.gpuLoadTime, isFinite x = true
  cpu : SummaryFinite row.cpu
  gpu : ∀ s ∈ row.gpu, SummaryFinite s
  speedup : ∀ x ∈ row.speedup, isFinite x = true

/-- A data set with timings of both devices, all of them finite. -/
structure Dataset.Timed (d : Dataset) : Prop where
  gpuAvailable : d.context.gpuAvailable = true
  measured : d.context.plan.dryRun = false
  finite : ∀ row ∈ d.rows, RowFinite row

/-- The headers of the Markdown table of all rows. -/
def markdownHeaders : List String :=
  ["Model", "Size", "Params", "Dim", "Query", "CPU Mean", "CPU P50", "CPU P95",
   "GPU Mean", "GPU P50", "GPU P95", "Speedup"]

/-- The headers of the console table of all rows. -/
def consoleHeaders : List String :=
  ["Model", "Size", "Query", "CPU Mean", "CPU P50", "CPU P95",
   "GPU Mean", "GPU P50", "GPU P95", "Speedup"]

/-- What the reports have for a row. -/
structure RowViews where
  object : Written
  record : List String
  pipe : List String
  console : List String

namespace RowViews

variable (v : RowViews)

def json (column : String) : Option Written := v.object.get? column

def csv (column : String) : Option String := csvCell column v.record

def inMarkdown (header : String) : Option String := cellUnder header markdownHeaders v.pipe

def inConsole (header : String) : Option String := cellUnder header consoleHeaders v.console

/-- A text that all reports show. -/
structure ShowText (column header text : String) : Prop where
  json : v.json column = some (.text text)
  csv : v.csv column = some text
  markdown : v.inMarkdown header = some text
  console : v.inConsole header = some text

/-- A latency that all reports show, each in its own precision. -/
structure ShowLatency (column header : String) (x : Float) : Prop where
  json : v.json column = some (.number (realText x))
  csv : v.csv column = some (fixed 4 x)
  markdown : v.inMarkdown header = some (fixed 2 x)
  console : v.inConsole header = some (fixed 2 x)

/-- The data files mark a value as missing where it is. -/
structure MarkData (column : String) (missing : Prop) : Prop where
  json : v.json column = some .null ↔ missing
  csv : v.csv column = some "" ↔ missing

/-- All reports mark a measurement as missing where it is. -/
structure MarkMeasurement (column header : String) (missing : Prop) : Prop
    extends MarkData v column missing where
  markdown : v.inMarkdown header = some "N/A" ↔ missing
  console : v.inConsole header = some "N/A" ↔ missing

/-- The reports show the same row. -/
structure Agree (row : Comparison Float) : Prop where
  model : v.json "model" = some (.text row.key.modelId) ∧ v.csv "model" = some row.key.modelId
  bareModel : ∃ segment, IsLastSegment row.key.modelId segment ∧
    v.inMarkdown "Model" = some segment ∧ v.inConsole "Model" = some segment
  size : v.ShowText "size" "Size" row.key.sizeLabel
  query : v.ShowText "query_length" "Query" row.key.query.label
  params : v.MarkData "params" (row.numParameters = none) ∧
    (v.inMarkdown "Params" = some "?" ↔ row.numParameters = none)
  dimension : v.MarkData "embedding_dim" (row.embeddingDim = none) ∧
    (v.inMarkdown "Dim" = some "?" ↔ row.embeddingDim = none)
  cpuLoadTime : v.MarkData "cpu_load_time_ms" (row.cpuLoadTime = none)
  gpuLoadTime : v.MarkData "gpu_load_time_ms" (row.gpuLoadTime = none)
  cpu : ∀ f : Figure, v.ShowLatency (f.column "cpu") (f.title "CPU") (f.of (figures row.cpu))
  cpuP99 : v.json "cpu_p99_ms" = some (.number (realText row.cpu.p99)) ∧
    v.csv "cpu_p99_ms" = some (fixed 4 row.cpu.p99)
  gpu : ∀ s ∈ row.gpu, ∀ f : Figure,
    v.ShowLatency (f.column "gpu") (f.title "GPU") (f.of (figures s))
  gpuP99 : ∀ s ∈ row.gpu, v.json "gpu_p99_ms" = some (.number (realText s.p99)) ∧
    v.csv "gpu_p99_ms" = some (fixed 4 s.p99)
  gpuMissing : ∀ f : Figure, v.MarkMeasurement (f.column "gpu") (f.title "GPU") (row.gpu = none)
  speedup : v.MarkMeasurement "speedup" "Speedup" (row.speedup = none)

end RowViews

/-- The reports of a data set show a list of views: the JSON array and the CSV records are read
    back, and the tables are made from the rows that are handed to them. -/
structure Shows (d : Dataset) (views : List RowViews) : Prop where
  json : ∃ w, Written.parse (json d) = .ok w ∧
    w.get? "comparison" = some (.array (views.map (·.object)))
  csv : readCsv (csv d) = some (csvHeader :: views.map (·.record))
  markdownTable : comparisonTable d = pipeTable markdownHeaders (views.map (·.pipe))
  markdown : Holds (markdown d) (comparisonTable d)
  consoleTable : (comparisonTextTable d).headers = consoleHeaders ∧
    (comparisonTextTable d).rows = views.map (·.console)
  console : Holds (console d) (comparisonTextTable d).render

/-- The name of a model without its owner is the last segment of its identifier. -/
theorem isLastSegment_bareName (modelId : String) : IsLastSegment modelId (bareName modelId) := by
  have noSlash : ∀ text : List Char, (∀ c ∈ text, decide (c = '/') = false) → '/' ∉ text :=
    fun text free member => by simpa using free '/' member
  rcases Text.free_or_exists_last (· = '/') modelId.toList with
    free | ⟨owner, mark, last, marked, free, whole⟩
  · have name : bareName modelId = modelId := by
      simp [bareName, Text.splitBy_of_free free]
    rw [name]
    exact ⟨noSlash _ free, .inl rfl⟩
  · obtain rfl : mark = '/' := by simpa using marked
    have name : bareName modelId = String.ofList last := by
      rw [bareName, whole, Text.splitBy_append marked, Text.splitBy_of_free free]
      simp
    rw [name]
    refine ⟨by simpa using noSlash last free, .inr ⟨String.ofList owner, ?_⟩⟩
    rw [← String.toList_inj, whole]
    simp

section Marks

/-- A finite figure is a number in a document. -/
theorem figure_of_isFinite {x : Float} (finite : isFinite x = true) :
    Written.figure x = .number (realText x) := if_pos finite

theorem figure_ne_null {x : Float} (finite : isFinite x = true) : Written.figure x ≠ .null := by
  rw [figure_of_isFinite finite]
  exact Written.noConfusion

theorem ofOption_eq_null_iff {α : Type} {f : α → Written} {value : Option α}
    (known : ∀ a ∈ value, f a ≠ .null) : Written.ofOption f value = .null ↔ value = none := by
  cases value with
  | none => simp [Written.ofOption]
  | some a => simpa [Written.ofOption] using known a rfl

variable {α : Type} {v : RowViews} {column : String} {f : α → Written} {write : α → String}
  {value : Option α} {missing : Prop}

/-- An optional value is marked in the data files where it is missing, as long as no value is
    written like the mark. -/
theorem RowViews.markData (json : v.json column = some (.ofOption f value))
    (csv : v.csv column = some (optionalField write value)) (known : ∀ a ∈ value, f a ≠ .null)
    (filled : ∀ a, write a ≠ "") (none : value = none ↔ missing) : v.MarkData column missing where
  json := by rw [json, Option.some.injEq, ofOption_eq_null_iff known, none]
  csv := by rw [csv, Option.some.injEq, optionalField_eq_empty_iff filled, none]

end Marks

section Rows

/-- What the reports have for a row of a data set with timings of both devices. -/
def viewsOf (row : Comparison Float) : RowViews where
  object := (rowJson row).written
  record := csvRecord row
  pipe := comparisonCells true row
  console := [bareName row.key.modelId, row.key.sizeLabel, row.key.query.label] ++ rowCells true row

variable {row : Comparison Float}

theorem json_gpu (row : Comparison Float) (f : Figure) :
    (viewsOf row).json (f.column "gpu") =
      some (.ofOption .figure ((row.gpu.map figures).map f.of)) := by
  rw [Option.map_map]
  exact (rowShown_rowJson row).gpu f

theorem inMarkdown_gpu (row : Comparison Float) (f : Figure) :
    (viewsOf row).inMarkdown (f.title "GPU") =
      some (msOrMissing ((row.gpu.map figures).map f.of)) := by
  cases f <;> rfl

theorem inConsole_gpu (row : Comparison Float) (f : Figure) :
    (viewsOf row).inConsole (f.title "GPU") =
      some (msOrMissing ((row.gpu.map figures).map f.of)) := by
  cases f <;> rfl

theorem showLatency_cpu (finite : SummaryFinite row.cpu) (f : Figure) :
    (viewsOf row).ShowLatency (f.column "cpu") (f.title "CPU") (f.of (figures row.cpu)) where
  json := by
    rw [← figure_of_isFinite (finite.figures f)]
    exact (rowShown_rowJson row).cpu f
  csv := csvCell_cpu row f
  markdown := by cases f <;> rfl
  console := by cases f <;> rfl

theorem showLatency_gpu {s : LatencySummary Float} (timed : row.gpu = some s)
    (finite : SummaryFinite s) (f : Figure) :
    (viewsOf row).ShowLatency (f.column "gpu") (f.title "GPU") (f.of (figures s)) where
  json := by
    rw [json_gpu, timed, ← figure_of_isFinite (finite.figures f)]
    rfl
  csv := by
    have cell := csvCell_gpu row f
    rw [timed] at cell
    exact cell
  markdown := by
    rw [inMarkdown_gpu, timed]
    rfl
  console := by
    rw [inConsole_gpu, timed]
    rfl

theorem markMeasurement_gpu (finite : ∀ s ∈ row.gpu, SummaryFinite s) (f : Figure) :
    (viewsOf row).MarkMeasurement (f.column "gpu") (f.title "GPU") (row.gpu = none) where
  toMarkData := by
    refine RowViews.markData (json_gpu row f) (csvCell_gpu row f) ?_ (fixed_ne_empty 4) (by simp)
    intro x member
    rw [Option.map_map] at member
    obtain ⟨s, timed, rfl⟩ := Option.map_eq_some_iff.mp member
    exact figure_ne_null ((finite s timed).figures f)
  markdown := by
    rw [inMarkdown_gpu, Option.some.injEq, msOrMissing_eq_iff]
    simp
  console := by
    rw [inConsole_gpu, Option.some.injEq, msOrMissing_eq_iff]
    simp

theorem markMeasurement_speedup (finite : ∀ x ∈ row.speedup, isFinite x = true) :
    (viewsOf row).MarkMeasurement "speedup" "Speedup" (row.speedup = none) where
  toMarkData :=
    RowViews.markData (rowShown_rowJson row).speedup rfl
      (fun x known => figure_ne_null (finite x known)) (fixed_ne_empty 2) Iff.rfl
  markdown := Option.some_inj.trans (speedupOrMissing_eq_iff row.speedup)
  console := Option.some_inj.trans (speedupOrMissing_eq_iff row.speedup)

theorem count_ne_null (n : Nat) : Written.count n ≠ .null := Written.noConfusion

theorem agree_viewsOf (finite : RowFinite row) : (viewsOf row).Agree row where
  model := ⟨rfl, rfl⟩
  bareModel := ⟨_, isLastSegment_bareName row.key.modelId, rfl, rfl⟩
  size := ⟨rfl, rfl, rfl, rfl⟩
  query := ⟨rfl, rfl, rfl, rfl⟩
  params :=
    ⟨RowViews.markData (rowShown_rowJson row).params rfl (fun n _ => count_ne_null n)
      digits_ne_empty Iff.rfl, Option.some_inj.trans (orQuestionMark_paramsText_eq_iff row)⟩
  dimension :=
    ⟨RowViews.markData (rowShown_rowJson row).embeddingDim rfl (fun n _ => count_ne_null n)
      digits_ne_empty Iff.rfl, Option.some_inj.trans (countOrUnknown_eq_iff row.embeddingDim)⟩
  cpuLoadTime :=
    RowViews.markData (rowShown_rowJson row).cpuLoadTime rfl
      (fun x known => figure_ne_null (finite.cpuLoadTime x known)) (fixed_ne_empty 1) Iff.rfl
  gpuLoadTime :=
    RowViews.markData (rowShown_rowJson row).gpuLoadTime rfl
      (fun x known => figure_ne_null (finite.gpuLoadTime x known)) (fixed_ne_empty 1) Iff.rfl
  cpu := showLatency_cpu finite.cpu
  cpuP99 := by
    rw [← figure_of_isFinite finite.cpu.p99]
    exact ⟨(rowShown_rowJson row).cpuP99, rfl⟩
  gpu := fun s timed => showLatency_gpu timed (finite.gpu s timed)
  gpuP99 := by
    intro s timed
    have shown := (rowShown_rowJson row).gpuP99
    have cell : csvCell "gpu_p99_ms" (csvRecord row) =
        some (optionalField (fixed 4) (row.gpu.map (·.p99))) := rfl
    rw [Option.mem_def.mp timed] at shown cell
    rw [← figure_of_isFinite (finite.gpu s timed).p99]
    exact ⟨shown, cell⟩
  gpuMissing := markMeasurement_gpu finite.gpu
  speedup := markMeasurement_speedup finite.speedup

end Rows

section Pieces

variable {text piece : String}

theorem Holds.refl (piece : String) : Holds piece piece := ⟨"", "", by simp⟩

theorem Holds.append (holds : Holds text piece) (more : String) : Holds (text ++ more) piece := by
  obtain ⟨before, after, rfl⟩ := holds
  exact ⟨before, after ++ more, by simp only [String.append_assoc]⟩

theorem Holds.prepend (holds : Holds text piece) (more : String) : Holds (more ++ text) piece := by
  obtain ⟨before, after, rfl⟩ := holds
  exact ⟨more ++ before, after, by simp only [String.append_assoc]⟩

theorem holds_markdown (d : Dataset) : Holds (markdown d) (comparisonTable d) :=
  (((((Holds.refl _).prepend _).append _).append _).append _).append _

theorem holds_console {d : Dataset} (measured : d.context.plan.dryRun = false) :
    Holds (console d) (comparisonTextTable d).render := by
  rw [console, measured]
  exact (((Holds.refl _).append _).append _).prepend _

end Pieces

theorem shows_viewsOf {d : Dataset} (gpuAvailable : d.context.gpuAvailable = true)
    (measured : d.context.plan.dryRun = false) : Shows d (d.rows.map viewsOf) where
  json := by
    refine ⟨_, Written.parse_pretty (within_document d 124), ?_⟩
    have rows : (document d).written.get? "comparison" =
        some (.array (writtenItems (d.rows.map rowJson))) := rfl
    rw [rows, writtenItems_eq_map, List.map_map, List.map_map]
    rfl
  csv := by
    rw [readCsv_csv, List.map_map]
    rfl
  markdownTable := by
    rw [comparisonTable, gpuAvailable, List.map_map]
    rfl
  markdown := holds_markdown d
  consoleTable := by
    simp only [comparisonTextTable, gpuAvailable, List.map_map]
    exact ⟨rfl, rfl⟩
  console := holds_console measured

/-- **The reports show the same rows.** With timings of both devices, all of them finite, the four
    reports have one view of each row, in the order of the rows: the same model, size label and
    query, the same values missing, and the same latencies, each in the precision of its report. -/
theorem reports_show_same_rows (d : Dataset) (timed : d.Timed) :
    ∃ views, Shows d views ∧ List.Forall₂ (fun row v => RowViews.Agree v row) d.rows views := by
  refine ⟨d.rows.map viewsOf, shows_viewsOf timed.gpuAvailable timed.measured, ?_⟩
  rw [List.forall₂_map_right_iff]
  exact List.forall₂_same.mpr fun row member => agree_viewsOf (timed.finite row member)

/-- A model that has been timed on both devices, and one that is only known by its name. -/
def oneAccelerated : Dataset :=
  .ofRows ⟨⟨2, 1, .full, false⟩, true, .unknown, ⟨0, 0⟩, 73.26⟩
    [{ key := ⟨"org/mini", "small", .short⟩
       cpu := ⟨5.0, 1.5, 5.0, 6.0, 6.0⟩
       gpu := some ⟨1.25, 0.5, 1.0, 2.0, 2.0⟩
       embeddingDim := some 384
       numParameters := some 22713216
       maxSeqLength := some 512
       modelType := some "bert"
       cpuLoadTime := some 250.0
       gpuLoadTime := some 900.5 },
     { key := ⟨"plain", "a,\"b\"", .long⟩
       cpu := ⟨0.1, 0.0, 0.1, 0.1, 0.1⟩
       gpu := none
       embeddingDim := none
       numParameters := none
       maxSeqLength := none
       modelType := none
       cpuLoadTime := none
       gpuLoadTime := none }]

theorem summaryFinite_iff (s : LatencySummary Float) :
    SummaryFinite s ↔
      isFinite s.mean = true ∧ isFinite s.p50 = true ∧ isFinite s.p95 = true ∧
        isFinite s.p99 = true := by
  constructor
  · intro finite
    exact ⟨finite.figures .mean, finite.figures .p50, finite.figures .p95, finite.p99⟩
  · rintro ⟨mean, p50, p95, p99⟩
    exact ⟨fun f => by cases f <;> assumption, p99⟩

theorem oneAccelerated_timed : oneAccelerated.Timed where
  gpuAvailable := rfl
  measured := rfl
  finite := by
    intro row member
    simp only [oneAccelerated, Dataset.ofRows, List.mem_cons, List.not_mem_nil, or_false] at member
    rcases member with rfl | rfl
    · constructor
      case cpuLoadTime => decide
      case gpuLoadTime => decide
      case cpu => exact (summaryFinite_iff _).mpr (by decide)
      case gpu =>
        rintro s ⟨⟩
        exact (summaryFinite_iff _).mpr (by decide)
      case speedup => decide +kernel
    · constructor
      case cpuLoadTime => rintro x ⟨⟩
      case gpuLoadTime => rintro x ⟨⟩
      case cpu => exact (summaryFinite_iff _).mpr (by decide)
      case gpu => rintro s ⟨⟩
      case speedup => rintro x ⟨⟩

/-- Its reports show both rows, with the marks of the second one. -/
theorem oneAccelerated_reports_show_same_rows :
    ∃ views, Shows oneAccelerated views ∧
      List.Forall₂ (fun row v => RowViews.Agree v row) oneAccelerated.rows views :=
  reports_show_same_rows oneAccelerated oneAccelerated_timed

end EmbeddingLatency.Report
