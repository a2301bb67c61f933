import EmbeddingLatency.Onnx.Backend

/-!
# The token limit of a loaded model

Loading a model settles on how many tokens its texts are cut off at; describing it says how long
its input may be. Both go by the same two configurations, and of a dense model they say the same.
A sparse model is cut off at the limit of its sentence encoder as well, but its description
leaves that limit out. So the two agree on a sparse model only where its sentence encoder has
nothing else to say.
-/

set_option autoImplicit false

namespace EmbeddingLatency

/-- How long the input of a model may be by its description. The sentence encoder counts for dense
    models only. -/
theorem ModelFacts.maxSeqLength_withConfigs (entry : ListedModel) (config : Option ModelConfig)
    (sentence : Option Nat) :
    ((unknown entry).withConfigs config sentence).maxSeqLength =
      (if entry.isSparse then none else sentence).or (config.bind (·.positionLimit)) := by
  cases config <;> cases sparse : entry.isSparse <;> simp [withConfigs, unknown, sparse]

namespace Onnx

open EmbeddingLatency.Bench (Backend)

/-- The limit that a description states, or else the default one. -/
def reportedLimit (info : ModelFacts) : Nat := info.maxSeqLength.getD defaultTokenLimit

namespace ModelBundle

variable {G : Type} (files : ModelBundle G)

/-- The limit of the sentence encoder, if its configuration can be read and has one. -/
def encoderLimit? : Option Nat := files.sentence.bind sentenceLimit?

/-- The limit of the model itself, if its configuration can be read and has one. -/
def modelLimit? : Option Nat := (files.config.bind ModelConfig.parse?).bind (·.positionLimit)

end ModelBundle

section

variable {G : Type} {entry : ListedModel} {files : ModelBundle G} {embedder : Embedder G}

theorem Embedder.limit_of_load {device : Device}
    (loaded : Embedder.load entry device files = .ok embedder) :
    embedder.limit = (files.encoderLimit?.or files.modelLimit?).getD defaultTokenLimit ∧
      ∀ entry', reportedLimit (embedder.info entry') =
        ((if entry'.isSparse then none else files.encoderLimit?).or files.modelLimit?).getD
          defaultTokenLimit := by
  unfold load at loaded
  repeat' split at loaded
  all_goals cases loaded
  refine ⟨rfl, ?_⟩
  intro entry'
  rw [reportedLimit, info, ModelFacts.maxSeqLength_withConfigs]
  rfl

theorem files_of_load {σ : Type} {runtime : GraphRuntime G} {source : ModelSource (StateM σ) G}
    {log : LogEvent → StateM σ Unit} {device : Device} {start loaded : σ}
    (load : ((backend runtime source log).load entry device).run start = (.ok embedder, loaded)) :
    ∃ files asked, (source.files entry.modelId).run asked = (files, loaded) ∧
      Embedder.load entry device files = .ok embedder := by
  let note : LogEvent :=
    ⟨.info, backendTarget, "loading " ++ entry.modelId ++ " on " ++ device.name⟩
  let asked := ((log note).run start).2
  have opened := congrArg Prod.fst load
  have ended : ((source.files entry.modelId).run asked).2 = loaded := congrArg Prod.snd load
  exact ⟨_, asked, Prod.ext rfl ended, opened⟩

/-- The registry has no say in how long the input of a model may be. -/
theorem reportedLimit_of_describe {σ : Type} {runtime : GraphRuntime G}
    {source : ModelSource (StateM σ) G} {log : LogEvent → StateM σ Unit} {info : ModelFacts}
    {world world' : σ}
    (described : ((backend runtime source log).describe entry embedder).run world =
      (info, world')) :
    reportedLimit info = reportedLimit (embedder.info entry) := by
  cases asked : source.registry with
  | none =>
    simp only [backend, asked] at described
    cases described
    rfl
  | some ask =>
    simp only [backend, asked] at described
    cases described
    rfl

end

/-- **Limits that are stated and limits that are kept.** A model that has been loaded cuts its texts
    off at the limit of its sentence encoder, else at its own one, else at the default one. It is
    the limit that its description states, unless the model is sparse and has a sentence encoder
    with another limit. -/
theorem limit_as_reported_iff {σ G : Type} (runtime : GraphRuntime G)
    (source : ModelSource (StateM σ) G) (log : LogEvent → StateM σ Unit) (entry : ListedModel)
    (device : Device) (embedder : Embedder G) (info : ModelFacts) (start loaded later described : σ)
    (load : ((backend runtime source log).load entry device).run start = (.ok embedder, loaded))
    (describe : ((backend runtime source log).describe entry embedder).run later =
      (info, described)) :
    ∃ files asked, (source.files entry.modelId).run asked = (files, loaded) ∧
      embedder.limit = (files.encoderLimit?.or files.modelLimit?).getD defaultTokenLimit ∧
      (embedder.limit = reportedLimit info ↔
        entry.isSparse = false ∨
          ∀ limit, files.encoderLimit? = some limit → limit = reportedLimit info) := by
  obtain ⟨files, asked, found, opened⟩ := files_of_load load
  have ⟨kept, stated⟩ := Embedder.limit_of_load opened
  refine ⟨files, asked, found, kept, ?_⟩
  rw [reportedLimit_of_describe describe, kept, stated]
  cases entry.isSparse with
  | false => simp
  | true =>
    cases files.encoderLimit? with
    | none => simp
    | some limit => simp

/-- A model that takes 512 tokens, with a sentence encoder that takes 256. -/
def shortEncoder : ModelBundle Unit where
  graph := some (.ok ())
  rootGraph := none
  tokenizer := some (some ⟨["[UNK]"], "[UNK]", false, Tokenizer.bareTemplate⟩)
  config := some "\x7b\"max_position_embeddings\": 512\x7d"
  sentence := some "\x7b\"max_seq_length\": 256\x7d"

theorem encoderLimit_shortEncoder : shortEncoder.encoderLimit? = some 256 := by decide +kernel

theorem modelLimit_shortEncoder : shortEncoder.modelLimit? = some 512 := by decide +kernel

/-- The backend that has the same files for every model. -/
def shortEncoderBackend : Backend (StateM Unit) (Embedder Unit) :=
  backend ⟨fun graph _ => (.ok .integers, graph)⟩ ⟨fun _ => pure shortEncoder, none⟩
    fun _ => pure ()

theorem shortEncoderBackend_loads (entry : ListedModel) : ∃ embedder info,
    (shortEncoderBackend.load entry .cpu).run () = (.ok embedder, ()) ∧
      (shortEncoderBackend.describe entry embedder).run () = (info, ()) :=
  ⟨_, _, rfl, rfl⟩

/-- As a dense model it is cut off where its description says. -/
theorem shortEncoder_dense_limit : ∃ embedder info,
    (shortEncoderBackend.load ⟨"small", "minilm", .dense⟩ .cpu).run () = (.ok embedder, ()) ∧
      (shortEncoderBackend.describe ⟨"small", "minilm", .dense⟩ embedder).run () = (info, ()) ∧
      embedder.limit = reportedLimit info := by
  obtain ⟨embedder, info, load, describe⟩ :=
    shortEncoderBackend_loads ⟨"small", "minilm", .dense⟩
  refine ⟨embedder, info, load, describe, ?_⟩
  obtain ⟨_, _, _, _, agree⟩ :=
    limit_as_reported_iff _ _ _ _ _ embedder info () () () () load describe
  exact agree.mpr (.inl rfl)

/-- As a sparse model it is cut off at 256 tokens, and its description says 512. -/
theorem sparse_limit_unreported :
    ¬∀ (entry : ListedModel) (embedder : Embedder Unit) (info : ModelFacts),
      (shortEncoderBackend.load entry .cpu).run () = (.ok embedder, ()) →
        (shortEncoderBackend.describe entry embedder).run () = (info, ()) →
          embedder.limit = reportedLimit info := by
  intro same
  obtain ⟨embedder, info, load, describe⟩ :=
    shortEncoderBackend_loads ⟨"small", "splade", .sparse⟩
  have agree := same _ _ _ load describe
  obtain ⟨files, _, found, opened⟩ := files_of_load load
  cases found
  have ⟨kept, stated⟩ := Embedder.limit_of_load opened
  rw [reportedLimit_of_describe describe, kept, stated, encoderLimit_shortEncoder,
    modelLimit_shortEncoder] at agree
  revert agree
  decide

end Onnx

end EmbeddingLatency
