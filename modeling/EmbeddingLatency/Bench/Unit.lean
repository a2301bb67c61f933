import EmbeddingLatency.Bench.Backend
import EmbeddingLatency.Bench.Observer
import EmbeddingLatency.Duration
import EmbeddingLatency.Series

/-!
# Units

A unit is one model on one device. It is loaded and described; then each query size has its
untimed and its timed calls; at last the model is released. On an accelerator a barrier follows the
untimed calls and every timed call, the timed ones inside the measured span. The first failure ends
the unit: the model is released, nothing of the unit's results is kept, and the failure says how
many timed calls have been made before it.
-/

set_option autoImplicit false

namespace EmbeddingLatency.Bench

/-- The part of a unit that has failed. -/
inductive UnitStep where
  | load
  | warmup
  | timing
  deriving DecidableEq, Repr

/-- The name of a stage. -/
def UnitStep.name : UnitStep → String
  | .load => "load"
  | .warmup => "warmup"
  | .timing => "timing"

/-- A unit that has failed. -/
structure UnitFault where
  entry : ListedModel
  device : Device
  stage : UnitStep
  /-- The number of timed calls before the failure. -/
  completed : Nat
  source : Fault
  deriving DecidableEq, Repr

/-- What is said of a unit that has failed. -/
def UnitFault.message (f : UnitFault) : String :=
  f.entry.modelId ++ " (" ++ f.entry.sizeLabel ++ ") on " ++ f.device.name ++
    " failed during " ++ f.stage.name ++ ": " ++ f.source.message

/-- How often a query is embedded. -/
structure Repetitions where
  warmup : Nat
  iterations : Nat
  deriving DecidableEq, Repr

/-- The number of timed calls of a whole unit in a word of 64 bits. Of a number that is too large
    for a word the upper bits are lost. -/
def Repetitions.budget (r : Repetitions) : UInt64 :=
  .ofNat r.iterations * .ofNat QuerySize.all.length

/-- The part of the program that the events of a unit come from. -/
def unitTarget : String := "embed_bench::runner"

section

variable {m : Type → Type} {H : Type} [Monad m] (backend : Backend m H) (observer : Observer m)

/-- Loads and describes a model, and measures how long the loading takes. -/
def loadModel (entry : ListedModel) (device : Device) :
    m (Except Fault (H × ModelFacts × Float)) := do
  let start ← observer.now
  match ← backend.load entry device with
  | .error fault => pure (.error fault)
  | .ok handle =>
    let stop ← observer.now
    let info ← backend.describe entry handle
    pure (.ok (handle, info, (Duration.between start stop).milliseconds))

/-- Waits for an accelerator; on the CPU there is nothing to wait for. -/
def barrier (device : Device) (handle : H) : m (Except Fault Unit × H) :=
  if device.isAccelerator then backend.barrier handle else pure (.ok (), handle)

/-- Embeds a text a number of times and throws the vectors away. -/
def untimedCalls (text : String) : Nat → H → m (Except Fault Unit × H)
  | 0, handle => pure (.ok (), handle)
  | n + 1, handle => do
    match ← backend.embed handle text with
    | (.error fault, handle) => pure (.error fault, handle)
    | (.ok _, handle) => untimedCalls text n handle

/-- The untimed calls of a query and the barrier behind them. -/
def warmUp (device : Device) (text : String) (count : Nat) (handle : H) :
    m (Except Fault Unit × H) := do
  match ← untimedCalls backend text count handle with
  | (.error fault, handle) => pure (.error fault, handle)
  | (.ok (), handle) => barrier backend device handle

/-- One timed call: its latency in milliseconds. -/
def timedCall (device : Device) (text : String) (handle : H) : m (Except Fault Float × H) := do
  let start ← observer.now
  match ← backend.embed handle text with
  | (.error fault, handle) => pure (.error fault, handle)
  | (.ok _, handle) =>
    match ← barrier backend device handle with
    | (.error fault, handle) => pure (.error fault, handle)
    | (.ok (), handle) =>
      let stop ← observer.now
      pure (.ok (Duration.between start stop).milliseconds, handle)

/-- A failure together with the number of timed calls in front of it. -/
abbrev CountedFault := Nat × Fault

/-- A number of timed calls: their latencies. `before` calls of the unit have been made already. -/
def timedCalls (device : Device) (text : String) :
    (count before : Nat) → H → m (Except CountedFault (List Float) × H)
  | 0, _, handle => pure (.ok [], handle)
  | n + 1, before, handle => do
    match ← timedCall backend observer device text handle with
    | (.error fault, handle) => pure (.error (before, fault), handle)
    | (.ok sample, handle) =>
      observer.advance 1
      match ← timedCalls device text n (before + 1) handle with
      | (.error failure, handle) => pure (.error failure, handle)
      | (.ok samples, handle) => pure (.ok (sample :: samples), handle)

/-- A loaded model: its entry, its device, what is known of it and how long it took to load. -/
structure LoadedModel where
  entry : ListedModel
  device : Device
  info : ModelFacts
  loadTime : Float

namespace LoadedModel

/-- The series of a query with its samples. -/
def result (model : LoadedModel) (query : QuerySize) (samples : List Float) : LatencySeries where
  modelId := model.entry.modelId
  sizeLabel := model.entry.sizeLabel
  query := query
  device := model.device
  samples := samples
  info := some model.info
  loadTime := some model.loadTime

/-- A failure of the unit that the model is loaded for. -/
def failure (model : LoadedModel) (stage : UnitStep) (completed : Nat) (source : Fault) :
    UnitFault := ⟨model.entry, model.device, stage, completed, source⟩

/-- What the log says of a model. -/
def loadedEvent (model : LoadedModel) : LogEvent :=
  ⟨.debug, unitTarget,
    model.entry.modelId ++ " loaded on " ++ model.device.name ++ " in " ++
      Decimal.fixed 1 model.loadTime ++ "ms"⟩

/-- What the log says of a query. -/
def queryEvent (model : LoadedModel) (result : LatencySeries) : LogEvent :=
  ⟨.debug, unitTarget,
    model.entry.modelId ++ " " ++ result.query.label ++ " on " ++ model.device.name ++ ": mean " ++
      Decimal.fixed 3 result.summary.mean ++ "ms over " ++ Decimal.digits result.samples.length ++
      " samples"⟩

end LoadedModel

/-- All calls of one query. -/
def runQuery (reps : Repetitions) (model : LoadedModel) (query : QuerySize) (before : Nat)
    (handle : H) : m (Except UnitFault LatencySeries × H) := do
  match ← warmUp backend model.device query.text reps.warmup handle with
  | (.error fault, handle) => pure (.error (model.failure .warmup before fault), handle)
  | (.ok (), handle) =>
    match ← timedCalls backend observer model.device query.text reps.iterations before handle with
    | (.error (completed, fault), handle) =>
      pure (.error (model.failure .timing completed fault), handle)
    | (.ok samples, handle) =>
      observer.log (model.queryEvent (model.result query samples))
      pure (.ok (model.result query samples), handle)

/-- The queries of a list, one after the other. -/
def runQueries (reps : Repetitions) (model : LoadedModel) :
    (queries : List QuerySize) → (before : Nat) → H →
      m (Except UnitFault (List LatencySeries) × H)
  | [], _, handle => pure (.ok [], handle)
  | query :: rest, before, handle => do
    match ← runQuery backend observer reps model query before handle with
    | (.error failure, handle) => pure (.error failure, handle)
    | (.ok result, handle) =>
      match ← runQueries reps model rest (before + reps.iterations) handle with
      | (.error failure, handle) => pure (.error failure, handle)
      | (.ok results, handle) => pure (.ok (result :: results), handle)

/-- A whole unit: one series for each query size, or the failure that ended it. -/
def measureUnit (reps : Repetitions) (entry : ListedModel) (device : Device) :
    m (Except UnitFault (List LatencySeries)) := do
  match ← loadModel backend observer entry device with
  | .error fault => pure (.error ⟨entry, device, .load, 0, fault⟩)
  | .ok (handle, info, loadTime) =>
    let model : LoadedModel := ⟨entry, device, info, loadTime⟩
    observer.log model.loadedEvent
    let (outcome, handle) ← runQueries backend observer reps model QuerySize.all 0 handle
    backend.release handle
    pure outcome

/-- A unit without timing: the model is loaded on the CPU, described and released, and each query
    length has a single sample of zero. -/
def inspectUnit (entry : ListedModel) : m (Except UnitFault (List LatencySeries)) := do
  match ← loadModel backend observer entry .cpu with
  | .error fault => pure (.error ⟨entry, .cpu, .load, 0, fault⟩)
  | .ok (handle, info, loadTime) =>
    backend.release handle
    let model : LoadedModel := ⟨entry, .cpu, info, loadTime⟩
    pure (.ok (QuerySize.all.map fun query => model.result query [0.0]))

end

end EmbeddingLatency.Bench
