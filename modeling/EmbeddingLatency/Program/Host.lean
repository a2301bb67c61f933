import EmbeddingLatency.Bench.Observer
import EmbeddingLatency.CommandLine.Grammar
import EmbeddingLatency.Files.Basic
import EmbeddingLatency.Host.Hardware
import EmbeddingLatency.Onnx.Backend
import EmbeddingLatency.Settings.Directories
import EmbeddingLatency.Timestamp

/-!
# What a program needs

A program reads files, writes reports and prints. `Host` collects all of that, so that a program can
be run against a real machine or against a model of one.
-/

set_option autoImplicit false

namespace EmbeddingLatency.Program

/-- Everything outside of a program. -/
structure Host (m : Type → Type) (G : Type) where
  environment : Environment
  /-- Directives for the log, if there are any. -/
  logDirectives : Option String
  /-- Reads a clock that counts nanoseconds. -/
  now : m Nat
  /-- The date and time of day. -/
  date : m Timestamp
  /-- What is known of the machine. -/
  machine : m Hardware
  /-- The content of a text file. -/
  read : String → m (Except FileFault String)
  files : FileStore m
  /-- Prints a text. -/
  print : String → m Unit
  /-- Prints a text where faults are reported. -/
  complain : String → m Unit
  /-- Writes an event to the log. -/
  record : LogEvent → m Unit
  runtime : Onnx.GraphRuntime G
  /-- The files of a model below a cache directory. -/
  modelFiles : String → String → m (Onnx.ModelBundle G)
  /-- What the model registry answers. -/
  registry : String → m (Option String)

namespace Host

variable {m : Type → Type} {G : Type} [Monad m] (host : Host m G)

/-- The filter of the log. -/
def logFilter : LogFilter := (host.logDirectives.bind LogFilter.ofText?).getD .default

/-- Writes an event to the log if the filter lets it through. -/
def log (event : LogEvent) : m Unit :=
  if host.logFilter.admits event then host.record event else pure ()

/-- Prints a line. -/
def line (text : String) : m Unit := host.print (text ++ "\n")

/-- An observer without a progress bar. -/
def observer : Bench.Observer m where
  now := host.now
  advance _ := pure ()
  announce _ := pure ()
  log := host.log

/-- The backend of a program. -/
def backend (askRegistry : Bool) : Bench.Backend m (Onnx.Embedder G) :=
  Onnx.backend host.runtime
    { files := host.modelFiles host.environment.cacheDirectory
      registry := if askRegistry then some host.registry else none }
    host.log

/-- Reports a fault: the exit code of a program that it ends. -/
def fails (fault : Fault) : m Nat := do
  host.complain ("Error: " ++ fault.message ++ "\n")
  return 1

/-- Breaks a program off that cannot go on: its exit code. -/
def breaksOff (reason : String) : m Nat := do
  host.complain ("panic: " ++ reason ++ "\n")
  return 101

/-- Answers a command line that is not carried out: its exit code. -/
def usage (name synopsis : String) (fault : CommandLine.UsageFault) : m Nat := do
  match fault with
  | .helpAsked =>
    host.line ("Usage: " ++ name ++ " " ++ synopsis)
    return 0
  | .versionAsked =>
    host.line (name ++ " 0.3.0")
    return 0
  | _ =>
    host.complain ("Usage: " ++ name ++ " " ++ synopsis ++ "\n")
    return 2

end Host

end EmbeddingLatency.Program
