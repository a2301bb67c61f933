import EmbeddingLatency.Bench.Unit
import EmbeddingLatency.Results

/-!
# Campaigns

A campaign runs all units of a catalog, one after the other: the devices one by one, and on each
device the entries in the order of the catalog. A unit that fails is reported and passed over, and
the progress bar moves on by what is left of the unit's budget. So the bar ends at its full length,
unless that is too large for a word. A dry run visits the entries once, on the CPU.
-/

set_option autoImplicit false

namespace EmbeddingLatency.Bench

/-- Settings that a campaign can be run with, and the entries to run it on. -/
structure Campaign where
  catalog : Catalog
  plan : Plan
  deviceChoice : DeviceChoice
  deriving DecidableEq, Repr

/-- The part of the program that the events of a campaign come from. -/
def campaignTarget : String := "embed_bench::orchestrator"

namespace Campaign

/-- The campaign that some settings ask for; settings that would time nothing are refused. -/
def ofSettings (settings : Settings) (catalog : Catalog) : Except Fault Campaign :=
  settings.validate.map fun _ => ⟨catalog, settings.plan, settings.devices⟩

/-- How often each query is embedded. -/
def repetitions (c : Campaign) : Repetitions := ⟨c.plan.warmup, c.plan.iterations⟩

/-- The devices that timed units run on. -/
def devices (c : Campaign) (accelerator : Bool) : List Device := c.deviceChoice.devices accelerator

/-- The full length of the progress bar in a word: one step a model in a dry run, else one a timed
    call. -/
def progressLength (c : Campaign) (accelerator : Bool) : UInt64 :=
  let models := .ofNat c.catalog.entries.length
  if c.plan.dryRun then models
  else models * .ofNat (c.devices accelerator).length * c.repetitions.budget

/-- What the log says at the beginning. -/
def beginEvent (c : Campaign) (devices : List Device) : LogEvent :=
  ⟨.info, campaignTarget,
    "benchmarking " ++ Decimal.digits c.catalog.entries.length ++ " models (" ++ c.plan.mode.name ++
      " mode" ++ (if c.plan.dryRun then ", dry run" else "") ++ ") on " ++
      String.intercalate ", " (devices.map (·.name))⟩

/-- What the log says at the end. -/
def endEvent (results : Results) : LogEvent :=
  ⟨.info, campaignTarget,
    "collected " ++ Decimal.digits results.size ++ " timing results in " ++
      Decimal.fixed 1 results.context.totalRuntime ++ "s"⟩

/-- What the log says of a unit that has failed. -/
def skipEvent (failure : UnitFault) : LogEvent :=
  ⟨.warn, campaignTarget, "skipping " ++ failure.message⟩

section

variable {m : Type → Type} {H : Type} [Monad m] (backend : Backend m H) (observer : Observer m)

/-- The timed units of some entries on one device: the results of those that succeed. -/
def timedUnits (reps : Repetitions) (device : Device) :
    List ListedModel → m (List LatencySeries)
  | [] => pure []
  | entry :: rest => do
    observer.announce (entry.sizeLabel ++ " on " ++ device.name)
    match ← measureUnit backend observer reps entry device with
    | .ok results => return results ++ (← timedUnits reps device rest)
    | .error failure =>
      observer.log (skipEvent failure)
      observer.advance (reps.budget.toNat - failure.completed)
      timedUnits reps device rest

/-- The timed units of all devices. -/
def timedUnitsOn (reps : Repetitions) (entries : List ListedModel) :
    List Device → m (List LatencySeries)
  | [] => pure []
  | device :: rest => do
    return (← timedUnits backend observer reps device entries) ++
      (← timedUnitsOn reps entries rest)

/-- The units of a dry run: the results of those that succeed. -/
def dryUnits : List ListedModel → m (List LatencySeries)
  | [] => pure []
  | entry :: rest => do
    observer.announce ("loading " ++ entry.sizeLabel)
    match ← inspectUnit backend observer entry with
    | .ok results =>
      observer.advance 1
      return results ++ (← dryUnits rest)
    | .error failure =>
      observer.log (skipEvent failure)
      observer.advance 1
      dryUnits rest

/-- All units of a campaign. -/
def units (c : Campaign) : m (List LatencySeries) :=
  if c.plan.dryRun then dryUnits backend observer c.catalog.entries
  else
    timedUnitsOn backend observer c.repetitions c.catalog.entries (c.devices backend.accelerator)

/-- Runs a campaign on a machine. A failing unit never ends it. -/
def run (c : Campaign) (machine : m Hardware) (date : m Timestamp) : m Results := do
  let start ← observer.now
  let hardware ← machine
  let startedAt ← date
  let devices := c.devices backend.accelerator
  observer.log (c.beginEvent devices)
  let timings ← units backend observer c
  let stop ← observer.now
  let results : Results :=
    { context :=
        { plan := c.plan
          gpuAvailable := devices.any (·.isAccelerator)
          hardware
          startedAt
          totalRuntime := (Duration.between start stop).seconds }
      timings }
  observer.log (endEvent results)
  return results

end

end Campaign

end EmbeddingLatency.Bench
