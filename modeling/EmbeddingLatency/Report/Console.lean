import EmbeddingLatency.Report.Cells
import EmbeddingLatency.Report.Dataset
import EmbeddingLatency.Text.Layout

/-!
# Tables for a terminal

Columns are as wide as their widest cell in bytes. Cells that hold numbers stand on the right of
their column, all others on the left, and white space at the end of a line is left out.

`render` lays a table out whatever the width of its columns. What a terminal gets to see is
`render?`: the same text, but nothing if some cell cannot be padded.
-/

set_option autoImplicit false

namespace EmbeddingLatency.Report

open EmbeddingLatency.Text (padLeft padLeft? padRight padRight? rule)

/-- A table with a title. -/
structure ConsoleTable where
  title : String
  headers : List String
  rows : List (List String)
  deriving DecidableEq, Repr

namespace ConsoleTable

/-- The width of a column: that of its widest cell. -/
def width (rows : List (List String)) (column : Nat) (header : String) : Nat :=
  (rows.filterMap fun row => (row[column]?).map String.utf8ByteSize).foldl max header.utf8ByteSize

/-- The widths of all columns. -/
def widths (t : ConsoleTable) : List Nat := t.headers.mapIdx (width t.rows)

/-- The width of the table: its columns and the separators between them. -/
def totalWidth (t : ConsoleTable) : Nat := t.widths.foldr (· + ·) 0 + 3 * (t.widths.length - 1)

/-- A cell in its column. -/
def alignedCell (cell : String) (width : Nat) : String :=
  if readsAsNumber cell then padLeft width cell else padRight width cell

/-- Cells in their columns as one line. -/
def line (cells : List String) : String :=
  String.ofList (Text.trimRight (String.intercalate " | " cells).toList) ++ "\n"

/-- The line of the headers. -/
def headerLine (t : ConsoleTable) : String :=
  line (t.headers.zipWith (fun header width => padRight width header) t.widths)

/-- The line of a row. Cells beyond the last header are left out. -/
def rowLine (t : ConsoleTable) (row : List String) : String :=
  line (row.zipWith alignedCell t.widths)

/-- The table as text. -/
def render (t : ConsoleTable) : String :=
  "\n" ++ t.title ++ "\n" ++
  rule '=' (max t.totalWidth t.title.utf8ByteSize) ++ "\n" ++
  t.headerLine ++
  rule '-' t.totalWidth ++ "\n" ++
  String.join (t.rows.map t.rowLine)

/-- A cell in its column, as far as it can be padded. -/
def alignedCell? (cell : String) (width : Nat) : Option String :=
  if readsAsNumber cell then padLeft? width cell else padRight? width cell

/-- The line of the headers, if they can be padded. -/
def headerLine? (t : ConsoleTable) : Option String :=
  ((t.headers.zip t.widths).mapM fun column => padRight? column.2 column.1).map line

/-- The line of a row, if its cells can be padded. -/
def rowLine? (t : ConsoleTable) (row : List String) : Option String :=
  ((row.zip t.widths).mapM fun column => alignedCell? column.1 column.2).map line

/-- The table as text, if all of its cells can be padded. -/
def render? (t : ConsoleTable) : Option String := do
  let header ← t.headerLine?
  let rows ← t.rows.mapM t.rowLine?
  return "\n" ++ t.title ++ "\n" ++
    rule '=' (max t.totalWidth t.title.utf8ByteSize) ++ "\n" ++
    header ++
    rule '-' t.totalWidth ++ "\n" ++
    String.join rows

end ConsoleTable

/-- The lines about the machine. -/
def hardwareLines (h : Hardware) : String :=
  "Hardware\n" ++
  "  CPU: " ++ orQuestionMark h.cpuModel ++ "\n" ++
  "  CPU Cores/Threads: " ++ countOrUnknown h.cpuCores ++ "/" ++ countOrUnknown h.cpuThreads ++
    "\n" ++
  (match h.ramGb with
    | none => ""
    | some ram => "  RAM: " ++ gigabytes ram ++ "\n") ++
  (match h.gpuModel with
    | none => ""
    | some gpu => "  GPU: " ++ gpu ++ " (CUDA " ++ orQuestionMark h.cudaVersion ++ ")\n")

/-- The models of a run. -/
def modelsTextTable (d : Dataset) : ConsoleTable where
  title := "Model Information"
  headers := ["Model", "Size", "Params", "Dim", "Max Seq", "Load", "Type"]
  rows := d.models.map modelCells

/-- All rows of a run. -/
def comparisonTextTable (d : Dataset) : ConsoleTable where
  title := "CPU vs GPU Comparison (ms)"
  headers := ["Model", "Size", "Query"] ++ timingHeaders d.context.gpuAvailable "Speedup"
  rows := d.rows.map fun row =>
    [bareName row.key.modelId, row.key.sizeLabel, row.key.query.label] ++
      rowCells d.context.gpuAvailable row

/-- Some groups of a run. -/
def groupTextTable {κ : Type} (d : Dataset) (title header : String) (labelText : κ → String)
    (groups : List (Group κ Float)) : ConsoleTable where
  title := title
  headers := header :: timingHeaders d.context.gpuAvailable "Speedup"
  rows := groups.map fun g => summaryCells d.context.gpuAvailable (labelText g.label) g.summary

/-- What a terminal shows after a run. A dry run has no timings to show. -/
def console (d : Dataset) : String :=
  hardwareLines d.context.hardware ++ (modelsTextTable d).render ++
  if d.context.plan.dryRun then "\nDry run complete - no timing data collected\n"
  else
    (comparisonTextTable d).render ++
    (groupTextTable d "Aggregated by Query Size (ms, avg across models)" "Query" (·.label)
      d.byQuery).render ++
    (groupTextTable d "Aggregated by Model Size (ms, avg across queries)" "Size" id
      d.bySize).render

/-- The tables that a terminal shows after a run. -/
def textTables (d : Dataset) : List ConsoleTable :=
  modelsTextTable d ::
    if d.context.plan.dryRun then []
    else
      [comparisonTextTable d,
       groupTextTable d "Aggregated by Query Size (ms, avg across models)" "Query" (·.label)
         d.byQuery,
       groupTextTable d "Aggregated by Model Size (ms, avg across queries)" "Size" id d.bySize]

/-- What a terminal shows after a run, if all tables can be laid out. -/
def console? (d : Dataset) : Option String :=
  ((textTables d).mapM ConsoleTable.render?).map fun tables =>
    hardwareLines d.context.hardware ++ String.join tables ++
      if d.context.plan.dryRun then "\nDry run complete - no timing data collected\n" else ""

end EmbeddingLatency.Report
