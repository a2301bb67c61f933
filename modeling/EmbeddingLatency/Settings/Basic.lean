import EmbeddingLatency.Catalog
import EmbeddingLatency.Device
import EmbeddingLatency.Fault
import EmbeddingLatency.Settings.Directories

/-!
# Settings

What a run is asked to do. Counts that are not given depend on the mode: a quick run times few
models often, a full run many models a few times. `Settings.plan` settles them.
-/

set_option autoImplicit false

namespace EmbeddingLatency

/-- Which set of models is benchmarked. -/
inductive BenchmarkMode where
  | quick
  | full
  deriving DecidableEq, Repr

namespace BenchmarkMode

/-- The name of a mode. -/
def name : BenchmarkMode → String
  | .quick => "quick"
  | .full => "full"

/-- All modes by their names. -/
def names : List (String × BenchmarkMode) := [("quick", .quick), ("full", .full)]

/-- The models of a mode. -/
def catalog : BenchmarkMode → Catalog
  | .quick => .quick
  | .full => .full

/-- The number of timed calls where none is given. -/
def usualIterations : BenchmarkMode → Nat
  | .quick => 100
  | .full => 10

/-- The number of untimed calls where none is given. -/
def usualWarmup : BenchmarkMode → Nat
  | .quick => 10
  | .full => 3

end BenchmarkMode

/-- The form of a report file. -/
inductive ReportFormat where
  | json
  | csv
  | md
  deriving DecidableEq, Repr

namespace ReportFormat

/-- The name of a format. -/
def name : ReportFormat → String
  | .json => "json"
  | .csv => "csv"
  | .md => "md"

/-- All formats by their names. -/
def names : List (String × ReportFormat) := [("json", .json), ("csv", .csv), ("md", .md)]

/-- The file that a report of this format goes to. -/
def fileName (f : ReportFormat) : String := "embed_bench." ++ f.name

end ReportFormat

/-- What a run is asked to do. -/
structure Settings where
  mode : BenchmarkMode
  /-- Timed calls for each model, device and query size. -/
  iterations : Option Nat
  /-- Untimed calls in front of them. -/
  warmup : Option Nat
  formats : List ReportFormat
  /-- Load the models for what is known of them, and time nothing. -/
  dryRun : Bool
  /-- Where the reports go. -/
  outputDir : Option String
  devices : DeviceChoice
  deriving DecidableEq, Repr

/-- What a run will do. -/
structure Plan where
  iterations : Nat
  warmup : Nat
  mode : BenchmarkMode
  dryRun : Bool
  deriving DecidableEq, Repr

namespace Settings

/-- Nothing is asked for in particular. -/
def default : Settings := ⟨.quick, none, none, [], false, none, .auto⟩

/-- The number of timed calls. -/
def chosenIterations (s : Settings) : Nat := s.iterations.getD s.mode.usualIterations

/-- The number of untimed calls. -/
def chosenWarmup (s : Settings) : Nat := s.warmup.getD s.mode.usualWarmup

/-- What a run with these settings will do. -/
def plan (s : Settings) : Plan := ⟨s.chosenIterations, s.chosenWarmup, s.mode, s.dryRun⟩

/-- Where the reports go. -/
def outputDirectory (s : Settings) (env : Environment) : String :=
  s.outputDir.getD env.resultsDirectory

/-- Settings that would time nothing are refused. -/
def validate (s : Settings) : Except Fault Unit :=
  if s.chosenIterations = 0 then .error (.config "iterations must be greater than zero")
  else .ok ()

theorem validate_eq_ok_iff (s : Settings) : s.validate = .ok () ↔ 0 < s.chosenIterations := by
  unfold validate
  split <;> simp_all [Nat.pos_iff_ne_zero]

end Settings

end EmbeddingLatency
