import EmbeddingLatency.Json.Reader
import EmbeddingLatency.Model.Facts
import EmbeddingLatency.Query
import EmbeddingLatency.Settings.Basic

/-!
# Settings and models as JSON

Settings and the information on a model are written as objects with all their members. They are read
from objects, whose unknown members do not matter, and from arrays of their fields in order.
Settings may leave members out; of a model's information only what is optional.
-/

set_option autoImplicit false

namespace EmbeddingLatency

/-- A plan as a JSON object. -/
def Plan.toJson (p : Plan) : Json.Value :=
  .object
    [("iterations", .nat p.iterations), ("warmup", .nat p.warmup), ("mode", .text p.mode.name),
     ("dry_run", .bool p.dryRun)]

namespace Settings

/-- Settings that are being read: which of them have been met. -/
structure Draft where
  mode : Option BenchmarkMode := none
  iterations : Option (Option Nat) := none
  warmup : Option (Option Nat) := none
  formats : Option (List ReportFormat) := none
  dryRun : Option Bool := none
  outputDir : Option (Option String) := none
  devices : Option DeviceChoice := none

/-- The fields of the settings in their order. -/
def fields : List (Json.Field Draft) :=
  [⟨"mode", (·.mode.isSome),
      (Json.oneOf BenchmarkMode.names).map fun v d => { d with mode := some v }⟩,
   ⟨"iterations", (·.iterations.isSome),
      (Json.optional Json.nat).map fun v d => { d with iterations := some v }⟩,
   ⟨"warmup", (·.warmup.isSome),
      (Json.optional Json.nat).map fun v d => { d with warmup := some v }⟩,
   ⟨"formats", (·.formats.isSome),
      (Json.array (Json.oneOf ReportFormat.names)).map fun v d => { d with formats := some v }⟩,
   ⟨"dry_run", (·.dryRun.isSome), Json.bool.map fun v d => { d with dryRun := some v }⟩,
   ⟨"output_dir", (·.outputDir.isSome),
      (Json.optional Json.text).map fun v d => { d with outputDir := some v }⟩,
   ⟨"devices", (·.devices.isSome),
      (Json.oneOf DeviceChoice.names).map fun v d => { d with devices := some v }⟩]

/-- A draft as settings; what was not met is left at its default. -/
def Draft.finish (d : Draft) : Settings where
  mode := d.mode.getD Settings.default.mode
  iterations := d.iterations.getD Settings.default.iterations
  warmup := d.warmup.getD Settings.default.warmup
  formats := d.formats.getD Settings.default.formats
  dryRun := d.dryRun.getD Settings.default.dryRun
  outputDir := d.outputDir.getD Settings.default.outputDir
  devices := d.devices.getD Settings.default.devices

/-- Reads settings. -/
def reader : Json.Reader Settings := Json.record fields true {} fun d => some d.finish

/-- Settings as a JSON object. -/
def toJson (s : Settings) : Json.Value :=
  .object
    [("mode", .text s.mode.name),
     ("iterations", .ofOption .nat s.iterations),
     ("warmup", .ofOption .nat s.warmup),
     ("formats", .array (s.formats.map fun f => .text f.name)),
     ("dry_run", .bool s.dryRun),
     ("output_dir", .ofOption .text s.outputDir),
     ("devices", .text s.devices.name)]

end Settings

namespace ModelFacts

/-- Information that is being read: which of it has been met. -/
structure Draft where
  modelId : Option String := none
  sizeLabel : Option String := none
  embeddingDim : Option (Option Nat) := none
  maxSeqLength : Option (Option Nat) := none
  numParameters : Option (Option Nat) := none
  modelType : Option (Option String) := none
  isSparse : Option Bool := none

/-- The fields of a model's information in their order. -/
def fields : List (Json.Field Draft) :=
  [⟨"model_id", (·.modelId.isSome), Json.text.map fun v d => { d with modelId := some v }⟩,
   ⟨"size_label", (·.sizeLabel.isSome), Json.text.map fun v d => { d with sizeLabel := some v }⟩,
   ⟨"embedding_dim", (·.embeddingDim.isSome),
      (Json.optional Json.nat).map fun v d => { d with embeddingDim := some v }⟩,
   ⟨"max_seq_length", (·.maxSeqLength.isSome),
      (Json.optional Json.nat).map fun v d => { d with maxSeqLength := some v }⟩,
   ⟨"num_parameters", (·.numParameters.isSome),
      (Json.optional Json.nat).map fun v d => { d with numParameters := some v }⟩,
   ⟨"model_type", (·.modelType.isSome),
      (Json.optional Json.text).map fun v d => { d with modelType := some v }⟩,
   ⟨"is_sparse", (·.isSparse.isSome), Json.bool.map fun v d => { d with isSparse := some v }⟩]

/-- A draft as information, if the identity and the kind of the model have been met. -/
def Draft.finish (d : Draft) : Option ModelFacts :=
  match d.modelId, d.sizeLabel, d.isSparse with
  | some modelId, some sizeLabel, some isSparse =>
    some
      { modelId, sizeLabel, isSparse
        embeddingDim := d.embeddingDim.getD none
        maxSeqLength := d.maxSeqLength.getD none
        numParameters := d.numParameters.getD none
        modelType := d.modelType.getD none }
  | _, _, _ => none

/-- Reads a model's information. -/
def reader : Json.Reader ModelFacts := Json.record fields false {} Draft.finish

/-- A model's information as a JSON object. -/
def toJson (i : ModelFacts) : Json.Value :=
  .object
    [("model_id", .text i.modelId),
     ("size_label", .text i.sizeLabel),
     ("embedding_dim", .ofOption .nat i.embeddingDim),
     ("max_seq_length", .ofOption .nat i.maxSeqLength),
     ("num_parameters", .ofOption .nat i.numParameters),
     ("model_type", .ofOption .text i.modelType),
     ("is_sparse", .bool i.isSparse)]

end ModelFacts

end EmbeddingLatency
