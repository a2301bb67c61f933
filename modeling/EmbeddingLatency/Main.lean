import EmbeddingLatency.Host.Account
import EmbeddingLatency.Host.Probe
import EmbeddingLatency.Onnx.Cache
import EmbeddingLatency.Program.Latency
import EmbeddingLatency.Program.RawThroughput
import EmbeddingLatency.Rehearsal.Graph
import Std.Time.DateTime.Timestamp

/-!
# The command line

Two programs share one entry: under the name `raw-throughput` the executable measures throughput,
and under any other name it is the latency benchmark. This module only connects the programs with
the machine: files, clocks, the environment and the two streams. Graphs are plans in JSON, since
there are no weights to run, and nothing is fetched from a registry.
-/

set_option autoImplicit false

namespace EmbeddingLatency.Terminal

/-- What a failed request to the file system means. -/
def faultOf : IO.Error → FileFault
  | .noFileOrDirectory .. => .missing
  | .alreadyExists .. => .exists
  | .inappropriateType _ 21 _ => .isDirectory
  | .inappropriateType .. => .notDirectory
  | .invalidArgument _ 36 _ => .nameTooLong
  | e => .other (toString e)

/-- Carries out a request about a path. -/
def attempt {α : Type} (path : String) (request : IO α) : IO (Except FileFault α) := do
  if path.toList.contains '\x00' then return .error .nullCharacter
  match ← request.toBaseIO with
  | .ok a => return .ok a
  | .error e => return .error (faultOf e)

/-- The content of a text file. -/
def readText (path : String) : IO (Except FileFault String) := do
  match ← attempt path (IO.FS.readBinFile path) with
  | .error fault => return .error fault
  | .ok bytes =>
    match String.fromUTF8? bytes with
    | some text => return .ok text
    | none => return .error .notText

/-- The file system. -/
def files : FileStore IO where
  createDirectories path := attempt path (IO.FS.createDirAll path)
  write path content := attempt path (IO.FS.writeFile path content)

/-- The time of day. -/
def date : IO Timestamp := do
  return .ofNanoseconds (← Std.Time.Timestamp.now).toNanosecondsSinceUnixEpoch.val.toNat

/-- What the machine hands out about itself. Programs are not asked. -/
def probe : IO Host.Probe := do
  let processors := (← readText "/proc/cpuinfo").toOption
  return {
    threads := processors.bind Host.threadCount?
    processors
    memory := (← readText "/proc/meminfo").toOption
    gpuListing := .missing
    gpuBanner := .missing }

/-- The home directory of the account that this program runs under. -/
def accountHome : IO (Option String) := do
  match ← readText "/proc/self/status", ← readText "/etc/passwd" with
  | .ok status, .ok accounts => return Host.accountHome? status accounts
  | _, _ => return none

/-- The variables that name directories. -/
def environment : IO Environment := do
  return {
    results := ← IO.getEnv "EMBED_BENCH_RESULTS_DIR"
    cache := ← IO.getEnv "EMBED_BENCH_CACHE_DIR"
    desktopCache := ← IO.getEnv "XDG_CACHE_HOME"
    home := ← IO.getEnv "HOME"
    accountHome := ← accountHome }

/-- Graphs and tokenizers are JSON documents. -/
def reader : Onnx.ModelReader Rehearsal.PlannedGraph where
  graph text :=
    match ((Json.Value.parse text).toOption.bind Rehearsal.PlannedGraph.ofJson?) with
    | some graph => graph
    | none => .error Rehearsal.notAGraph
  tokenizer text := (Json.Value.parse text).toOption.bind Onnx.Tokenizer.ofJson?
  unreadable := Rehearsal.notAGraph

/-- The machine that the programs run on. -/
def host : IO (Program.Host IO Rehearsal.PlannedGraph) := do
  let output ← IO.getStdout
  let complaints ← IO.getStderr
  return {
    environment := ← environment
    logDirectives := ← IO.getEnv "EMBED_BENCH_LOG"
    now := IO.monoNanosNow
    date
    machine := (·.hardware) <$> probe
    read := readText
    files
    print := output.putStr
    complain := complaints.putStr
    record := fun event => do output.putStrLn (event.line (← date))
    runtime := Rehearsal.graphRuntime
    modelFiles := fun directory modelId =>
      Onnx.ModelCache.files readText ⟨directory⟩ reader modelId
    registry := fun _ => pure none }

/-- Runs the program that the executable is named for: its exit code. -/
def run (args : List String) : IO UInt32 := do
  let host ← host
  let name := (← IO.appPath).fileName
  let exit ←
    if name = some "raw-throughput" then Program.rawThroughput host args
    else Program.latency host args
  return exit.toUInt32

end EmbeddingLatency.Terminal

/-- The entry of both programs. -/
def main (args : List String) : IO UInt32 := EmbeddingLatency.Terminal.run args
