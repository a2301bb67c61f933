import EmbeddingLatency.Decimal.Fixed
import EmbeddingLatency.Report.Dataset

/-!
# The CSV report

One record a row below a header. Fields that hold a comma, a quote or a line break are put in
quotes, and quotes inside them are doubled. Values that are not known are empty fields.
-/

set_option autoImplicit false

namespace EmbeddingLatency.Report

open EmbeddingLatency.Decimal (digits fixed)

/-- The names of the fields. -/
def csvHeader : List String :=
  ["model", "size", "params", "embedding_dim", "max_seq_length", "cpu_load_time_ms",
   "gpu_load_time_ms", "query_length", "cpu_mean_ms", "cpu_p50_ms", "cpu_p95_ms", "cpu_p99_ms",
   "gpu_mean_ms", "gpu_p50_ms", "gpu_p95_ms", "gpu_p99_ms", "speedup"]

/-- The value as a field; an empty field where there is none. -/
def optionalField {α : Type} (write : α → String) (value : Option α) : String :=
  (value.map write).getD ""

/-- The fields of a row. -/
def csvRecord (row : Comparison Float) : List String :=
  [row.key.modelId,
   row.key.sizeLabel,
   optionalField digits row.numParameters,
   optionalField digits row.embeddingDim,
   optionalField digits row.maxSeqLength,
   optionalField (fixed 1) row.cpuLoadTime,
   optionalField (fixed 1) row.gpuLoadTime,
   row.key.query.label,
   fixed 4 row.cpu.mean,
   fixed 4 row.cpu.p50,
   fixed 4 row.cpu.p95,
   fixed 4 row.cpu.p99,
   optionalField (fixed 4) (row.gpu.map (·.mean)),
   optionalField (fixed 4) (row.gpu.map (·.p50)),
   optionalField (fixed 4) (row.gpu.map (·.p95)),
   optionalField (fixed 4) (row.gpu.map (·.p99)),
   optionalField (fixed 2) row.speedup]

theorem length_csvRecord (row : Comparison Float) :
    (csvRecord row).length = csvHeader.length := rfl

/-- Has the character a meaning in CSV? -/
def isCsvSpecial (c : Char) : Bool := c = ',' || c = '"' || c = '\n' || c = '\r'

/-- The characters of a field as they are written inside quotes. -/
def doubledQuotes : List Char → List Char
  | [] => []
  | c :: rest => if c = '"' then '"' :: '"' :: doubledQuotes rest else c :: doubledQuotes rest

/-- A field as it is written. -/
def csvField (field : String) : String :=
  if field.toList.any isCsvSpecial then
    String.ofList ('"' :: doubledQuotes field.toList ++ ['"'])
  else field

/-- A record on a line of its own. A record of one empty field is written as a pair of quotes, so
    that it can be told from an empty line. -/
def csvLine (fields : List String) : String :=
  (if fields = [""] then "\"\"" else String.intercalate "," (fields.map csvField)) ++ "\n"

/-- Some records as a CSV text. -/
def csvText (records : List (List String)) : String := String.join (records.map csvLine)

/-- The CSV report. -/
def csv (d : Dataset) : String := csvText (csvHeader :: d.rows.map csvRecord)

end EmbeddingLatency.Report
