import EmbeddingLatency.Settings.Basic
import EmbeddingLatency.Toml.Document

/-!
# Settings from a TOML file

Every setting is optional in the file, and keys that are no settings do not matter. A choice is
written as its name, or as a table whose only key is the name and whose value is empty.
-/

set_option autoImplicit false

namespace EmbeddingLatency.Settings

/-- A table without entries, or an array without items. -/
def isEmptyValue : Toml.Value → Bool
  | .array [] => true
  | .table _ [] => true
  | .tables [] => true
  | _ => false

/-- One of several named choices. -/
def choice? {α : Type} (names : List (String × α)) : Toml.Value → Option α
  | .text s => (names.find? (·.1 = s)).map (·.2)
  | .table _ [(s, v)] => if isEmptyValue v then (names.find? (·.1 = s)).map (·.2) else none
  | _ => none

/-- A natural number. -/
def count? : Toml.Value → Option Nat
  | .integer n => if 0 ≤ n then some n.toNat else none
  | _ => none

/-- A text. -/
def text? : Toml.Value → Option String
  | .text s => some s
  | _ => none

/-- A truth value. -/
def flag? : Toml.Value → Option Bool
  | .bool b => some b
  | _ => none

/-- A list; the tables of headers in double brackets are one, too. -/
def list? {α : Type} (item : Toml.Value → Option α) : Toml.Value → Option (List α)
  | .array items => items.mapM item
  | .tables reversed => reversed.reverse.mapM fun entries => item (.table .header entries)
  | _ => none

/-- The value under a key: absent where there is no such key, refused where it is of a wrong
    kind. -/
def entry? {α : Type} (entries : Toml.Entries) (key : String) (read : Toml.Value → Option α) :
    Option (Option α) :=
  match entries.get? key with
  | none => some none
  | some v => (read v).map some

/-- The settings that the entries of a file describe. -/
def ofEntries? (entries : Toml.Entries) : Option Settings := do
  let mode ← entry? entries "mode" (choice? BenchmarkMode.names)
  let iterations ← entry? entries "iterations" count?
  let warmup ← entry? entries "warmup" count?
  let formats ← entry? entries "formats" (list? (choice? ReportFormat.names))
  let dryRun ← entry? entries "dry_run" flag?
  let outputDir ← entry? entries "output_dir" text?
  let devices ← entry? entries "devices" (choice? DeviceChoice.names)
  some
    { mode := mode.getD Settings.default.mode
      iterations, warmup
      formats := formats.getD Settings.default.formats
      dryRun := dryRun.getD Settings.default.dryRun
      outputDir
      devices := devices.getD Settings.default.devices }

/-- What is said of a file that does not hold settings. -/
def fileFault : String := "TOML parse error"

/-- The settings in the text of a file. -/
def ofToml (text : String) : Except Fault Settings :=
  match (Toml.parse text).bind ofEntries? with
  | some s => .ok s
  | none => .error (.config fileFault)

end EmbeddingLatency.Settings
