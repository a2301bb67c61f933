import EmbeddingLatency.Json.Reader
import EmbeddingLatency.Model.Facts

/-!
# What a model's files say of it

Three optional documents describe a model: its configuration, the configuration of its sentence
encoder, and the answer of the model registry. A configuration is read key by key, so a value of a
wrong kind loses only itself; the two others are read as records. The token limit that a model runs
with and the one that is reported of it come from the same two documents.
-/

set_option autoImplicit false

namespace EmbeddingLatency

/-- The keys of a model's configuration that are of use. -/
structure ModelConfig where
  modelType : Option String
  hiddenSize : Option Nat
  dModel : Option Nat
  vocabSize : Option Nat
  maxPositionEmbeddings : Option Nat
  maxSeqLength : Option Nat
  nPositions : Option Nat
  deriving DecidableEq, Repr

namespace ModelConfig

/-- The configuration that the members of an object describe; of repeated keys the last counts. -/
def ofMembers (members : List (String × Json.Value)) : ModelConfig :=
  let nat? (key : String) := (Json.Value.lastMember? key members).bind Json.Value.nat?
  { modelType := (Json.Value.lastMember? "model_type" members).bind Json.Value.text?
    hiddenSize := nat? "hidden_size"
    dModel := nat? "d_model"
    vocabSize := nat? "vocab_size"
    maxPositionEmbeddings := nat? "max_position_embeddings"
    maxSeqLength := nat? "max_seq_length"
    nPositions := nat? "n_positions" }

/-- Reads a configuration; only a text that is no JSON object at all is refused. -/
def parse? (body : String) : Option ModelConfig :=
  match Json.Value.parse body with
  | .error _ => none
  | .ok document => document.members?.map ofMembers

/-- The width of the vectors of a dense model. -/
def vectorWidth (c : ModelConfig) : Option Nat := c.hiddenSize.or c.dModel

/-- The longest input in tokens. -/
def positionLimit (c : ModelConfig) : Option Nat :=
  (c.maxPositionEmbeddings.or c.maxSeqLength).or c.nPositions

end ModelConfig

/-- A record with one optional number, such as `{"max_seq_length": 256}`. -/
def optionalNat (name : String) : Json.Reader (Option Nat) :=
  Json.record [⟨name, Option.isSome, (Json.optional Json.nat).map fun n _ => some n⟩] false
    (none : Option (Option Nat)) fun state => some (state.getD none)

/-- The token limit of a sentence encoder's configuration. -/
def sentenceLimit? (body : String) : Option Nat :=
  match Json.decode (optionalNat "max_seq_length") body with
  | .error _ => none
  | .ok limit => limit

/-- The parameter count in an answer of the model registry. -/
def parameterCount? (body : String) : Option Nat :=
  let wire : Json.Reader (Option (Option Nat)) :=
    Json.record
      [⟨"safetensors", Option.isSome, (Json.optional (optionalNat "total")).map fun n _ => some n⟩]
      false (none : Option (Option (Option Nat))) fun state => some (state.getD none)
  match Json.decode wire body with
  | .error _ => none
  | .ok total => total.bind id

/-- The information with what the configurations add to it. A sparse model has as many dimensions as
    words; the limit of the sentence encoder counts for dense models only. -/
def ModelFacts.withConfigs (info : ModelFacts) (config : Option ModelConfig)
    (sentenceLimit : Option Nat) : ModelFacts :=
  let info := match config with
    | none => info
    | some c =>
      { info with
        modelType := c.modelType
        embeddingDim := if info.isSparse then c.vocabSize else c.vectorWidth
        maxSeqLength := c.positionLimit }
  if info.isSparse then info
  else { info with maxSeqLength := sentenceLimit.or info.maxSeqLength }

end EmbeddingLatency
