import EmbeddingLatency.CommandLine.Values
import EmbeddingLatency.Settings.Basic

/-!
# The command line of the latency benchmark

Every switch overrides one setting of the settings file, and settings without a switch stay as they
are. Counts that neither names are those of the mode that results.
-/

set_option autoImplicit false

namespace EmbeddingLatency.CommandLine

/-- What the command line asks for. -/
structure LatencyRequest where
  /-- The settings file. -/
  config : Option String
  iterations : Option Nat
  warmup : Option Nat
  formats : List ReportFormat
  full : Bool
  dryRun : Bool
  cpuOnly : Bool
  outputDir : Option String
  /-- Is the registry not to be asked for parameter counts? -/
  offlineMetadata : Bool
  deriving DecidableEq, Repr

namespace LatencyRequest

/-- Nothing is asked for. -/
def empty : LatencyRequest := ⟨none, none, none, [], false, false, false, none, false⟩

/-- What may stand on the command line. -/
def grammar : Grammar LatencyRequest where
  switches :=
    [⟨"config", some 'c', false, .takes (pathValue fun v r => { r with config := some v })⟩,
     ⟨"iterations", some 'n', false,
        .takes (countValue fun v r => { r with iterations := some v })⟩,
     ⟨"warmup", some 'w', false, .takes (countValue fun v r => { r with warmup := some v })⟩,
     ⟨"fmt", some 'f', true,
        .takes (choiceValue ReportFormat.names fun v r => { r with formats := r.formats ++ [v] })⟩,
     ⟨"full", none, false, .sets fun r => { r with full := true }⟩,
     ⟨"dry-run", none, false, .sets fun r => { r with dryRun := true }⟩,
     ⟨"cpu-only", none, false, .sets fun r => { r with cpuOnly := true }⟩,
     ⟨"output-dir", some 'o', false,
        .takes (pathValue fun v r => { r with outputDir := some v })⟩,
     ⟨"offline-metadata", none, false, .sets fun r => { r with offlineMetadata := true }⟩] ++
    commonSwitches
  operands := []

/-- Reads a command line. -/
def parse (args : List String) : Except UsageFault LatencyRequest := grammar.parse empty args

/-- The settings of a file with what the command line overrides. -/
def override (r : LatencyRequest) (s : Settings) : Settings where
  mode := if r.full then .full else s.mode
  iterations := r.iterations.or s.iterations
  warmup := r.warmup.or s.warmup
  formats := if r.formats.isEmpty then s.formats else r.formats
  dryRun := r.dryRun || s.dryRun
  outputDir := r.outputDir.or s.outputDir
  devices := if r.cpuOnly then .cpuOnly else s.devices

end LatencyRequest

end EmbeddingLatency.CommandLine
