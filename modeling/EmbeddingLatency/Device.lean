/-!
# Devices

A model runs on the CPU or on an NVIDIA accelerator. Work on an accelerator may still be under way
when a call returns, so timing there needs a barrier.
-/

set_option autoImplicit false

namespace EmbeddingLatency

/-- Where a model runs. -/
inductive Device where
  | cpu
  | cuda
  deriving DecidableEq, Repr

namespace Device

/-- The name of a device. -/
def name : Device → String
  | .cpu => "cpu"
  | .cuda => "cuda"

/-- The name of a device in diagnostics. -/
def title : Device → String
  | .cpu => "Cpu"
  | .cuda => "Cuda"

/-- Does work go on behind the caller's back on this device? -/
def isAccelerator : Device → Bool
  | .cpu => false
  | .cuda => true

/-- All devices by their names. -/
def names : List (String × Device) := [("cpu", .cpu), ("cuda", .cuda)]

end Device

/-- Which devices a run may use. -/
inductive DeviceChoice where
  /-- The CPU, and the accelerator where there is one. -/
  | auto
  | cpuOnly
  deriving DecidableEq, Repr

namespace DeviceChoice

/-- The name of a policy. -/
def name : DeviceChoice → String
  | .auto => "auto"
  | .cpuOnly => "cpu-only"

/-- All policies by their names. -/
def names : List (String × DeviceChoice) := [("auto", .auto), ("cpu-only", .cpuOnly)]

/-- The devices of a timed run, in the order in which they are used. -/
def devices (policy : DeviceChoice) (accelerator : Bool) : List Device :=
  if policy = .auto ∧ accelerator = true then [.cpu, .cuda] else [.cpu]

end DeviceChoice

end EmbeddingLatency
