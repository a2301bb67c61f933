import EmbeddingLatency.Json.Reader

/-!
# Hardware

A snapshot of the machine that a benchmark ran on. Whatever could not be found out is missing.
-/

set_option autoImplicit false

namespace EmbeddingLatency

/-- The machine of a run. -/
structure Hardware where
  cpuModel : Option String
  /-- Physical cores. -/
  cpuCores : Option Nat
  /-- Logical processors. -/
  cpuThreads : Option Nat
  ramGb : Option Float
  gpuModel : Option String
  gpuMemoryGb : Option Float
  gpuDriverVersion : Option String
  cudaVersion : Option String
  runtimeVersion : Option String
  deriving Repr

namespace Hardware

/-- A machine of which nothing is known. -/
def unknown : Hardware := ⟨none, none, none, none, none, none, none, none, none⟩

/-- A snapshot that is being read: which of its fields have been met. -/
structure Draft where
  cpuModel : Option (Option String) := none
  cpuCores : Option (Option Nat) := none
  cpuThreads : Option (Option Nat) := none
  ramGb : Option (Option Float) := none
  gpuModel : Option (Option String) := none
  gpuMemoryGb : Option (Option Float) := none
  gpuDriverVersion : Option (Option String) := none
  cudaVersion : Option (Option String) := none
  runtimeVersion : Option (Option String) := none

/-- The fields of a snapshot in their order. -/
def fields : List (Json.Field Draft) :=
  [⟨"cpu_model", (·.cpuModel.isSome),
      (Json.optional Json.text).map fun v d => { d with cpuModel := some v }⟩,
   ⟨"cpu_cores", (·.cpuCores.isSome),
      (Json.optional Json.nat).map fun v d => { d with cpuCores := some v }⟩,
   ⟨"cpu_threads", (·.cpuThreads.isSome),
      (Json.optional Json.nat).map fun v d => { d with cpuThreads := some v }⟩,
   ⟨"ram_gb", (·.ramGb.isSome),
      (Json.optional Json.real).map fun v d => { d with ramGb := some v }⟩,
   ⟨"gpu_model", (·.gpuModel.isSome),
      (Json.optional Json.text).map fun v d => { d with gpuModel := some v }⟩,
   ⟨"gpu_memory_gb", (·.gpuMemoryGb.isSome),
      (Json.optional Json.real).map fun v d => { d with gpuMemoryGb := some v }⟩,
   ⟨"gpu_driver_version", (·.gpuDriverVersion.isSome),
      (Json.optional Json.text).map fun v d => { d with gpuDriverVersion := some v }⟩,
   ⟨"cuda_version", (·.cudaVersion.isSome),
      (Json.optional Json.text).map fun v d => { d with cudaVersion := some v }⟩,
   ⟨"runtime_version", (·.runtimeVersion.isSome),
      (Json.optional Json.text).map fun v d => { d with runtimeVersion := some v }⟩]

/-- A draft as a snapshot; fields that were not met are missing. -/
def Draft.finish (d : Draft) : Hardware where
  cpuModel := d.cpuModel.getD none
  cpuCores := d.cpuCores.getD none
  cpuThreads := d.cpuThreads.getD none
  ramGb := d.ramGb.getD none
  gpuModel := d.gpuModel.getD none
  gpuMemoryGb := d.gpuMemoryGb.getD none
  gpuDriverVersion := d.gpuDriverVersion.getD none
  cudaVersion := d.cudaVersion.getD none
  runtimeVersion := d.runtimeVersion.getD none

/-- Reads a snapshot. -/
def reader : Json.Reader Hardware := Json.record fields false {} fun d => some d.finish

/-- A snapshot as a JSON object; `figure` says how the two sizes are shown. -/
def toJson (h : Hardware) (figure : Float → Float) : Json.Value :=
  .object
    [("cpu_model", .ofOption .text h.cpuModel),
     ("cpu_cores", .ofOption .nat h.cpuCores),
     ("cpu_threads", .ofOption .nat h.cpuThreads),
     ("ram_gb", .ofOption (.real ∘ figure) h.ramGb),
     ("gpu_model", .ofOption .text h.gpuModel),
     ("gpu_memory_gb", .ofOption (.real ∘ figure) h.gpuMemoryGb),
     ("gpu_driver_version", .ofOption .text h.gpuDriverVersion),
     ("cuda_version", .ofOption .text h.cudaVersion),
     ("runtime_version", .ofOption .text h.runtimeVersion)]

end Hardware

end EmbeddingLatency
