import EmbeddingLatency.Distinct
import EmbeddingLatency.Host.Hardware
import EmbeddingLatency.Text.Blank

/-!
# Probing a machine

What is known of a machine comes from texts that its system hands out: one about its processors, one
about its memory, and the output of a program that knows the GPU. Each text is read for itself. A
text that is missing or cannot be read costs its own fields and no other ones.
-/

set_option autoImplicit false

namespace EmbeddingLatency.Host

open EmbeddingLatency.Text (trim words lines splitOnce splitBy)

/-- The total memory in bytes, from the first line that names it in kilobytes. -/
def memoryBytes? (text : String) : Option Nat :=
  let label := "MemTotal:".toList
  match (lines text.toList).find? (label.isPrefixOf ·) with
  | none => none
  | some line =>
    ((words (line.drop label.length)).head?.bind (Decimal.unsigned? Decimal.maxWord)).map fun kb =>
      min (kb * 1024) Decimal.maxWord

/-- What is known of the processors. -/
structure Processors where
  model : Option String
  physicalCores : Option Nat
  deriving DecidableEq, Repr

/-- The parts of a text between empty lines. -/
def blocks : List Char → List (List Char)
  | [] => [[]]
  | '\n' :: '\n' :: rest => [] :: blocks rest
  | c :: rest =>
    match blocks rest with
    | [] => [[c]]
    | block :: more => (c :: block) :: more

/-- The keys and values of a block: one pair a line, separated by a colon. -/
def pairs (block : List Char) : List (List Char × List Char) :=
  (lines block).filterMap fun line =>
    (splitOnce [':'] line).map fun (key, value) => (trim key, trim value)

/-- The last value of a key in a block. -/
def lastValue? (key : String) (block : List Char) : Option (List Char) :=
  ((pairs block).reverse.find? fun p => p.1 = key.toList).map (·.2)

/-- The physical core that a block stands for: its socket and its place there. -/
def core? (block : List Char) : Option (List Char × List Char) :=
  match lastValue? "physical id" block, lastValue? "core id" block with
  | some socket, some core => some (socket, core)
  | _, _ => none

/-- The first model name that is not empty. -/
def modelName? (allBlocks : List (List Char)) : Option String :=
  ((allBlocks.flatMap pairs).find? fun p => p.1 = "model name".toList && p.2 ≠ []).map fun p =>
    String.ofList p.2

/-- The processors that a text with one block for each of them describes. Physical cores are the
    distinct cores of its blocks. -/
def Processors.ofText (text : String) : Processors :=
  let allBlocks := blocks text.toList
  let cores := distinct (allBlocks.filterMap core?)
  { model := modelName? allBlocks
    physicalCores := if cores = [] then none else some cores.length }

/-- The number of logical processors: one block each, which gives its number. -/
def threadCount? (text : String) : Option Nat :=
  let count := (blocks text.toList).countP fun block => (lastValue? "processor" block).isSome
  if count = 0 then none else some count

/-- What is known of the GPU. -/
structure Gpu where
  name : String
  memoryMib : Option Float
  driverVersion : Option String
  deriving Repr

/-- The GPU in the first line of a listing: name, memory and driver version between commas. Without
    a name there is no GPU. -/
def Gpu.ofListing? (text : String) : Option Gpu :=
  match lines text.toList with
  | [] => none
  | line :: _ =>
    let fields := (splitBy (· = ',') line).map trim
    let filled (place : Nat) : Option (List Char) := fields[place]?.filter (· ≠ [])
    (filled 0).map fun name =>
      { name := String.ofList name
        memoryMib := fields[1]?.bind Decimal.float?
        driverVersion := (filled 2).map String.ofList }

/-- The version behind the first mention of it in a banner. -/
def cudaVersion? (banner : String) : Option String :=
  match splitOnce "CUDA Version:".toList banner.toList with
  | none => none
  | some (_, rest) =>
    (words rest).head?.bind fun word =>
      let version := (word.reverse.dropWhile (· = '|')).reverse
      if version = [] then none else some (String.ofList version)

/-- One run of a program. -/
inductive ProgramRun where
  /-- There is no such program. -/
  | missing
  | finished (exit : Nat) (output : ByteArray)

/-- The trimmed output of a program that succeeded and printed some text. -/
def ProgramRun.text? : ProgramRun → Option String
  | .missing => none
  | .finished exit output =>
    if exit = 0 then
      (String.fromUTF8? output).bind fun text =>
        let body := trim text.toList
        if body = [] then none else some (String.ofList body)
    else none

/-- What a machine hands out about itself. -/
structure Probe where
  /-- The number of logical processors. -/
  threads : Option Nat
  processors : Option String
  memory : Option String
  /-- The GPU program, asked for name, memory and driver version. -/
  gpuListing : ProgramRun
  /-- The GPU program without arguments. -/
  gpuBanner : ProgramRun

/-- The version of the inference runtime. -/
def inferenceRuntime : String := "onnxruntime (ort 2.0.0-rc.11)"

/-- What is known of a machine. The banner matters only where the listing shows a GPU. -/
def Probe.hardware (p : Probe) : Hardware :=
  let processors := (p.processors.map Processors.ofText).getD ⟨none, none⟩
  let gpu := p.gpuListing.text?.bind Gpu.ofListing?
  { cpuModel := processors.model
    cpuCores := processors.physicalCores.or p.threads
    cpuThreads := p.threads
    ramGb := (p.memory.bind memoryBytes?).map fun bytes => Decimal.ofNat bytes / 1073741824.0
    gpuModel := gpu.map (·.name)
    gpuMemoryGb := (gpu.bind (·.memoryMib)).map (· / 1024.0)
    gpuDriverVersion := gpu.bind (·.driverVersion)
    cudaVersion := gpu.bind fun _ => p.gpuBanner.text?.bind cudaVersion?
    runtimeVersion := some inferenceRuntime }

end EmbeddingLatency.Host
