import EmbeddingLatency.Files.Basic
import EmbeddingLatency.Log
import EmbeddingLatency.Report.Csv
import EmbeddingLatency.Report.Json
import EmbeddingLatency.Report.Markdown

/-!
# Report files

Each format that is asked for goes to a file of its own in one directory, in the order in which the
formats are named. A format that is named twice is written twice to the same file. The first refusal
of the file system ends the export.
-/

set_option autoImplicit false

namespace EmbeddingLatency.Report

/-- The report in a format. -/
def render (d : Dataset) : ReportFormat → String
  | .json => json d
  | .csv => csv d
  | .md => markdown d

/-- The path of a format's file in a directory. -/
def artifactPath (directory : String) (format : ReportFormat) : String :=
  joinPath directory format.fileName

section

variable {m : Type → Type} [Monad m] (files : FileStore m) (log : LogEvent → m Unit)

/-- Writes the files of some formats into a directory that exists. -/
def writeAll (d : Dataset) (directory : String) :
    List ReportFormat → m (Except Fault (List String))
  | [] => pure (.ok [])
  | format :: rest => do
    let path := artifactPath directory format
    match ← files.write path (render d format) with
    | .error f => pure (.error f.fault)
    | .ok () =>
      log ⟨.info, "embed_bench::report", "wrote " ++ path⟩
      match ← writeAll d directory rest with
      | .error f => pure (.error f)
      | .ok paths => pure (.ok (path :: paths))

/-- Writes the files of some formats into a directory, which is created where it does not exist, and
    answers their paths. -/
def exportFiles (d : Dataset) (formats : List ReportFormat) (directory : String) :
    m (Except Fault (List String)) := do
  match ← files.createDirectories directory with
  | .error f => pure (.error f.fault)
  | .ok () => writeAll files log d directory formats

end

end EmbeddingLatency.Report
