import EmbeddingLatency.Files.Tree
import EmbeddingLatency.Host.Probe
import EmbeddingLatency.Onnx.Cache
import EmbeddingLatency.Program.Host
import EmbeddingLatency.Rehearsal.Graph

/-!
# Rehearsing programs

A machine in memory: a tree of files, what has been printed, and what has been complained about. Its
clock stands still, and no registry answers.
-/

set_option autoImplicit false

namespace EmbeddingLatency.Rehearsal

/-- The state of a machine. -/
structure Machine where
  tree : FileTree
  output : String
  complaints : String

/-- What happens on a machine. -/
abbrev OnMachine := StateM Machine

/-- The lines of a text. -/
def textLines (text : String) : List String := (Text.lines text.toList).map String.ofList

/-- The directory in which rehearsals take place. -/
def scratch : Place := ["tmp", "rehearsals"]

/-- The path of that directory. -/
def scratchPath : String := "/tmp/rehearsals"

example : FileTree.names scratchPath = scratch := by decide +kernel

/-- The files of a machine on which nothing has been done yet: a directory to work in, and a file
    that holds nothing. -/
def freshTree : FileTree :=
  let nodes :=
    [(["dev"], .directory), (["dev", "null"], .file ""), (["tmp"], .directory),
     (scratch, .directory)]
  { nodes.foldl (fun tree node => tree.put node.1 node.2) FileTree.empty with
    workingDirectory := scratch }

/-- What a cache holds of a model after the files of some models have been put there one by one.
    Models whose directories have one name share their files. -/
def cached (models : List (String × Onnx.ModelBundle PlannedGraph)) (modelId : String) :
    Onnx.ModelBundle PlannedGraph :=
  let directory := Onnx.ModelCache.directoryName
  (models.filter fun model => directory model.1 = directory modelId).foldl
    (fun found model => model.2.over found) .missing

namespace Machine

/-- The machine with more output. -/
def shows (machine : Machine) (text : String) : Machine :=
  { machine with output := machine.output ++ text }

/-- The lines of the output. -/
def outputLines (machine : Machine) : List String := textLines machine.output

/-- Does something with the files. -/
def withTree {α : Type} (f : FileTree → α × FileTree) : OnMachine α :=
  modifyGet fun machine =>
    let (a, tree) := f machine.tree
    (a, { machine with tree })

end Machine

/-- What is known of the machine: no GPU, and little else. -/
def modestHardware : Hardware :=
  { Hardware.unknown with
    cpuModel := some "CPU", cpuCores := some 1, cpuThreads := some 1, ramGb := some 1.0
    runtimeVersion := some Host.inferenceRuntime }

/-- A log event as a line without its time. -/
def logLine (event : LogEvent) : String := event.level.name ++ " " ++ event.body

/-- A machine as the host of a program. -/
def host (environment : Environment) (logDirectives : Option String)
    (models : String → Onnx.ModelBundle PlannedGraph) : Program.Host OnMachine PlannedGraph where
  environment := environment
  logDirectives := logDirectives
  now := pure 0
  date := pure ⟨0, 0⟩
  machine := pure modestHardware
  read path := do return (← get).tree.read? path
  files :=
    { createDirectories := fun path => Machine.withTree (FileTree.createDirectories path)
      write := fun path content => Machine.withTree (FileTree.write path content) }
  print text := modify (·.shows text)
  complain text := modify fun machine => { machine with complaints := machine.complaints ++ text }
  record event := modify (·.shows (logLine event ++ "\n"))
  runtime := graphRuntime
  modelFiles _ model := pure (models model)
  registry _ := pure none

end EmbeddingLatency.Rehearsal
