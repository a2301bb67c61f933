import EmbeddingLatency.Bench.Campaign
import EmbeddingLatency.CommandLine.Latency
import EmbeddingLatency.Program.Host
import EmbeddingLatency.Report.Console
import EmbeddingLatency.Report.Export
import EmbeddingLatency.Settings.Toml

/-!
# The latency benchmark as a program

The settings come from a file and from the command line. After the run its tables are printed
and the reports that are asked for are written down. If a table cannot be laid out, the
program breaks off.
-/

set_option autoImplicit false

namespace EmbeddingLatency.Program

open EmbeddingLatency.CommandLine (LatencyRequest)

/-- How a run of the program ends. -/
inductive Ending where
  | finished
  | faulty (fault : Fault)
  /-- A cell of a table is too wide to be padded. -/
  | brokenOff

/-- The settings in a file, or the default ones without a file. -/
def fileSettings {m : Type → Type} [Monad m] (read : String → m (Except FileFault String)) :
    Option String → m (Except Fault Settings)
  | none => pure (.ok .default)
  | some path => do
    match ← read path with
    | .error f => pure (.error f.fault)
    | .ok text => pure (Settings.ofToml text)

section

variable {m : Type → Type} {G : Type} [Monad m] (host : Host m G)

/-- Writes the reports down that are asked for. -/
def exportReports (settings : Settings) (results : Results) (dataset : Report.Dataset) :
    m Ending := do
  let exported ←
    if settings.formats.isEmpty then pure (.ok [])
    else
      Report.exportFiles host.files host.log dataset settings.formats
        (settings.outputDirectory host.environment)
  match exported with
  | .error fault => return .faulty fault
  | .ok paths =>
    if !settings.formats.isEmpty then
      host.line ""
      for path in paths do
        host.line ("saved: " ++ path)
    host.line ""
    host.line
      ("Benchmark complete! Total runtime: " ++ Report.runtimeText results.context.totalRuntime)
    return .finished

/-- Prints the tables of a run and writes its reports down. -/
def publish (settings : Settings) (results : Results) : m Ending := do
  let dataset := Report.Dataset.ofResults results
  match Report.console? dataset with
  | none => return .brokenOff
  | some tables =>
    host.print tables
    exportReports host settings results dataset

/-- Runs what a command line asks for, up to the first fault. -/
def carryOut (request : LatencyRequest) : m Ending := do
  match ← fileSettings host.read request.config with
  | .error fault => return .faulty fault
  | .ok fromFile =>
    let settings := request.override fromFile
    match Bench.Campaign.ofSettings settings settings.mode.catalog with
    | .error fault => return .faulty fault
    | .ok campaign =>
      let results ←
        campaign.run (host.backend !request.offlineMetadata) host.observer host.machine host.date
      publish host settings results

/-- The latency benchmark: its exit code. -/
def latency (args : List String) : m Nat := do
  match LatencyRequest.parse args with
  | .error fault => host.usage "embed-bench" "[OPTIONS]" fault
  | .ok request =>
    match ← carryOut host request with
    | .finished => return 0
    | .faulty fault => host.fails fault
    | .brokenOff => host.breaksOff "Formatting argument out of range"

end

end EmbeddingLatency.Program
