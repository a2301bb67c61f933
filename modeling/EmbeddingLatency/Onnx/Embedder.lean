import EmbeddingLatency.Device
import EmbeddingLatency.Model.Config
import EmbeddingLatency.Onnx.Graph
import EmbeddingLatency.Onnx.Pooling
import EmbeddingLatency.Onnx.Tokenizer

/-!
# Embedders

An embedder is a loaded graph with its tokenizer. It embeds a batch in three steps: it encodes the
texts, runs the graph and pools its output. Embedding one text is embedding a batch of one.

Loading looks for the graph first, then for the tokenizer; the two configurations are optional. Only
then is the device taken, the graph opened and the tokenizer read. The first step that fails names
what is missing. The limit on tokens is that of the sentence encoder, else that of the model, else
a default.
-/

set_option autoImplicit false

namespace EmbeddingLatency.Onnx

/-- The files of a model, as far as they are there. A graph that cannot be opened says why; a
    tokenizer that cannot be read is nothing. -/
structure ModelBundle (G : Type) where
  /-- The graph in the directory for graphs. -/
  graph : Option (Except String G)
  /-- The graph beside the other files. -/
  rootGraph : Option (Except String G)
  tokenizer : Option (Option Tokenizer)
  config : Option String
  sentence : Option String

/-- No files at all. -/
def ModelBundle.missing {G : Type} : ModelBundle G := ⟨none, none, none, none, none⟩

/-- What lies in a directory after more files have been put there: of two files with one name, the
    newer one stays. -/
def ModelBundle.over {G : Type} (newer older : ModelBundle G) : ModelBundle G where
  graph := newer.graph.or older.graph
  rootGraph := newer.rootGraph.or older.rootGraph
  tokenizer := newer.tokenizer.or older.tokenizer
  config := newer.config.or older.config
  sentence := newer.sentence.or older.sentence

/-- The paths of a graph in the order in which they are tried. -/
def graphPaths : List String := ["onnx/model.onnx", "model.onnx"]

/-- The path of a tokenizer. -/
def tokenizerPath : String := "tokenizer.json"

/-- The path of a model's configuration. -/
def configPath : String := "config.json"

/-- The path of a sentence encoder's configuration. -/
def sentencePath : String := "sentence_bert_config.json"

/-- The limit on tokens where no configuration states one. -/
def defaultTokenLimit : Nat := 512

/-- The limit on tokens that a model runs with. -/
def tokenLimit (config : Option ModelConfig) (sentence : Option Nat) : Nat :=
  (sentence.or (config.bind (·.positionLimit))).getD defaultTokenLimit

/-- The architectures whose graphs have no use for token types. -/
def withoutTokenTypes : List String := ["mpnet", "distilbert", "roberta", "xlm-roberta"]

/-- Does the graph of a model take token types? -/
def takesTokenTypes (config : Option ModelConfig) : Bool :=
  (config.bind (·.modelType)).all fun t => !withoutTokenTypes.contains t

/-- Takes a device. There is no accelerator here. -/
def takeDevice : Device → Except Fault Unit
  | .cpu => .ok ()
  | .cuda => .error (.model "built without the \x60cuda\x60 feature")

/-- A loaded model. -/
structure Embedder (G : Type) (T : Type := Tokenizer) where
  entry : ListedModel
  device : Device
  graph : G
  tokenizer : T
  limit : Nat
  tokenTypes : Bool
  config : Option ModelConfig
  sentence : Option Nat

namespace Embedder

variable {G T : Type}

/-- Loads a model from its files. -/
def load (entry : ListedModel) (device : Device) (files : ModelBundle G) :
    Except Fault (Embedder G) :=
  match files.graph.or files.rootGraph with
  | none =>
    .error (.model
      (entry.modelId ++ " publishes no ONNX graph (" ++
        Text.bracketed (graphPaths.map Text.quoted) ++ ")"))
  | some graph =>
    match files.tokenizer with
    | none =>
      .error (.model
        ("failed to download " ++ tokenizerPath ++ " for " ++ entry.modelId ++ ": no such file"))
    | some tokenizer =>
      match takeDevice device with
      | .error fault => .error fault
      | .ok () =>
        match graph, tokenizer with
        | .error message, _ => .error (.model ("ONNX model load failed: " ++ message))
        | .ok _, none => .error (.model "tokenizer load failed: not a word tokenizer")
        | .ok graph, some tokenizer =>
          let config := files.config.bind ModelConfig.parse?
          let sentence := files.sentence.bind sentenceLimit?
          .ok
            { entry, device, graph, tokenizer, config, sentence
              limit := tokenLimit config sentence
              tokenTypes := takesTokenTypes config }

/-- What the configurations say of a loaded model. -/
def info (e : Embedder G T) (entry : ListedModel) : ModelFacts :=
  (ModelFacts.unknown entry).withConfigs e.config e.sentence

/-- Encodes texts as one batch. -/
def encode [TextEncoder T] (e : Embedder G T) (texts : List String) : Except Fault TokenBatch :=
  (texts.mapM (TextEncoder.encode e.tokenizer e.limit)).map TokenBatch.ofEncodings

/-- What is said of a batch whose texts have no tokens at all. -/
def emptyFault : Fault :=
  .inference
    ("input_ids tensor failed: Invalid dimension #2; all dimensions must be >= 1 when creating " ++
      "a tensor from raw data")

/-- Runs the graph on a batch. -/
def runGraph (runtime : GraphRuntime G) (e : Embedder G T) (batch : TokenBatch) :
    Except Fault (List Int × List Float32) × Embedder G T :=
  if batch.seqLen = 0 then (.error emptyFault, e)
  else
    let (output, graph) := runtime.run e.graph (.ofBatch batch e.tokenTypes)
    let e := { e with graph }
    match output with
    | .error message => (.error (.inference ("ONNX inference failed: " ++ message)), e)
    | .ok .integers =>
      (.error (.inference
        "output extraction failed: Cannot extract Tensor<f32> from Tensor<i64>"), e)
    | .ok (.reals dims flat) => (.ok (dims, flat), e)

/-- Embeds several texts at once. -/
def embedAll [TextEncoder T] (runtime : GraphRuntime G) (e : Embedder G T) (texts : List String) :
    Except Fault (List Embedding) × Embedder G T :=
  if texts.isEmpty then (.ok [], e)
  else
    match e.encode texts with
    | .error fault => (.error fault, e)
    | .ok batch =>
      match e.runGraph runtime batch with
      | (.error fault, e) => (.error fault, e)
      | (.ok (dims, flat), e) =>
        (pool e.entry.kind batch.batchSize batch.seqLen batch.mask dims flat, e)

/-- Embeds one text. -/
def embed [TextEncoder T] (runtime : GraphRuntime G) (e : Embedder G T) (text : String) :
    Except Fault Embedding × Embedder G T :=
  match e.embedAll runtime [text] with
  | (.error fault, e) => (.error fault, e)
  | (.ok vectors, e) =>
    match vectors.getLast? with
    | some vector => (.ok vector, e)
    | none => (.error (.inference "model returned no embedding"), e)

/-- A short text that tells loaded models apart. -/
def summary (e : Embedder G T) : String :=
  "OrtEmbedder \x7b model_id: " ++ Text.quoted e.entry.modelId ++ ", kind: " ++
    e.entry.kind.title ++ ", device: " ++ e.device.title ++ ", .. \x7d"

end Embedder

end EmbeddingLatency.Onnx
