import EmbeddingLatency.Model.Config

/-!
# One key, one field

A configuration is read key by key, and each of its fields looks at one key only. A value that is of
no use is therefore lost alone, and a key that no field looks at may hold anything. What is then
said of a model goes through chains of keys: the first one with a usable number counts.

Of a repeated key the last member counts (`Json.Counts`). All that is known of a field is read off
the member that counts for it (`lastMember?_eq_some_iff`).
-/

set_option autoImplicit false

namespace EmbeddingLatency

namespace Json

/-- The value of the last member of this name. -/
def Counts (members : List (String × Value)) (key : String) (v : Value) : Prop :=
  ∃ before after, members = before ++ (key, v) :: after ∧ ∀ m ∈ after, m.1 ≠ key

/-- The objects have the same values under all keys but one. Under that one they may have any
    values, or none at all. -/
def SameBut (name : String) (members others : List (String × Value)) : Prop :=
  ∀ key, key ≠ name → ∀ v, Counts members key v ↔ Counts others key v

/-- A usable number under a key: a whole number that is not negative. -/
def Usable (members : List (String × Value)) (key : String) (n : Nat) : Prop :=
  Counts members key (.nat n)

/-- The first usable number under some keys, or nothing if there is none. -/
def FirstUsable (members : List (String × Value)) : List String → Option Nat → Prop
  | [], found => found = none
  | key :: keys, found =>
    (∃ n, found = some n ∧ Usable members key n) ∨
      (∀ n, ¬Usable members key n) ∧ FirstUsable members keys found

section Members

variable {members others : List (String × Value)} {key name : String}

theorem Value.lastMember?_eq_some_iff {v : Value} :
    lastMember? key members = some v ↔ Counts members key v := by
  rw [lastMember?, Option.map_eq_some_iff]
  constructor
  · rintro ⟨⟨key', v⟩, found, rfl⟩
    obtain ⟨named, after, before, reversed, passed⟩ := List.find?_eq_some_iff_append.mp found
    obtain rfl : key' = key := by simpa using named
    refine ⟨before.reverse, after.reverse, ?_, ?_⟩
    · rw [← List.reverse_reverse members, reversed]
      simp
    · intro m member
      simpa using passed m (List.mem_reverse.mp member)
  · rintro ⟨before, after, rfl, passed⟩
    refine ⟨(key, v), List.find?_eq_some_iff_append.mpr
      ⟨by simp, after.reverse, before.reverse, ?_, ?_⟩, rfl⟩
    · simp
    · intro m member
      simpa using passed m (List.mem_reverse.mp member)

theorem SameBut.lastMember?_eq (same : SameBut name members others) (other : key ≠ name) :
    Value.lastMember? key members = Value.lastMember? key others := by
  refine Option.ext fun v => ?_
  rw [Value.lastMember?_eq_some_iff, Value.lastMember?_eq_some_iff]
  exact same key other v

theorem Value.nat?_eq_some_iff {v : Value} {n : Nat} : v.nat? = some n ↔ v = .nat n := by
  constructor
  · intro number
    unfold nat? at number
    split at number
    case h_1 => rw [Option.some.inj number]; rfl
    case h_2 => cases number
  · rintro rfl
    rfl

theorem Value.text?_eq_some_iff {v : Value} {t : String} : v.text? = some t ↔ v = .text t := by
  cases v <;> simp [text?]

/-- A field that looks at a key has the value that counts there, if it is of its kind. -/
theorem bind_lastMember?_eq_some_iff {α : Type} {kind : Value → Option α} {form : α → Value}
    (kinds : ∀ v a, kind v = some a ↔ v = form a) (a : α) :
    (Value.lastMember? key members).bind kind = some a ↔ Counts members key (form a) := by
  rw [Option.bind_eq_some_iff]
  constructor
  · rintro ⟨v, found, ofKind⟩
    rw [← (kinds v a).mp ofKind]
    exact Value.lastMember?_eq_some_iff.mp found
  · intro counts
    exact ⟨form a, Value.lastMember?_eq_some_iff.mpr counts, (kinds _ a).mpr rfl⟩

theorem natMember?_eq_some_iff {n : Nat} :
    (Value.lastMember? key members).bind Value.nat? = some n ↔ Usable members key n :=
  bind_lastMember?_eq_some_iff (fun _ _ => Value.nat?_eq_some_iff) n

theorem FirstUsable.nil : FirstUsable members [] none := rfl

/-- One key in front of others: its number counts, or else the first one under the others. -/
theorem FirstUsable.cons {keys : List String} {found : Option Nat}
    (rest : FirstUsable members keys found) :
    FirstUsable members (key :: keys)
      (((Value.lastMember? key members).bind Value.nat?).or found) := by
  cases here : (Value.lastMember? key members).bind Value.nat? with
  | some n => exact .inl ⟨n, rfl, natMember?_eq_some_iff.mp here⟩
  | none =>
    refine .inr ⟨fun n usable => ?_, rest⟩
    rw [natMember?_eq_some_iff.mpr usable] at here
    cases here

end Members

end Json

open Json (Counts FirstUsable SameBut Value)

namespace ModelConfig

/-- The keys that a configuration is read from. -/
def keys : List String :=
  ["model_type", "hidden_size", "d_model", "vocab_size", "max_position_embeddings",
   "max_seq_length", "n_positions"]

/-- The configurations agree in all fields but the one of this name. -/
structure SameBut (name : String) (c c' : ModelConfig) : Prop where
  modelType : name ≠ "model_type" → c.modelType = c'.modelType
  hiddenSize : name ≠ "hidden_size" → c.hiddenSize = c'.hiddenSize
  dModel : name ≠ "d_model" → c.dModel = c'.dModel
  vocabSize : name ≠ "vocab_size" → c.vocabSize = c'.vocabSize
  maxPositionEmbeddings :
    name ≠ "max_position_embeddings" → c.maxPositionEmbeddings = c'.maxPositionEmbeddings
  maxSeqLength : name ≠ "max_seq_length" → c.maxSeqLength = c'.maxSeqLength
  nPositions : name ≠ "n_positions" → c.nPositions = c'.nPositions

/-- Of a name that no field has, nothing is left to differ. -/
theorem SameBut.eq {name : String} {c c' : ModelConfig} (same : c.SameBut name c')
    (unread : name ∉ keys) : c = c' := by
  simp only [keys, List.mem_cons, List.not_mem_nil, or_false, not_or] at unread
  obtain ⟨type, hidden, model, words, positions, length, limit⟩ := unread
  cases c
  cases c'
  simp only [mk.injEq]
  exact ⟨same.modelType type, same.hiddenSize hidden, same.dModel model, same.vocabSize words,
    same.maxPositionEmbeddings positions, same.maxSeqLength length, same.nPositions limit⟩

variable {members others : List (String × Value)}

theorem sameBut_ofMembers {name : String} (same : Json.SameBut name members others) :
    (ofMembers members).SameBut name (ofMembers others) := by
  have looks {key : String} {α : Type} (kind : Value → Option α) (other : name ≠ key) :
      (Value.lastMember? key members).bind kind = (Value.lastMember? key others).bind kind := by
    rw [same.lastMember?_eq other.symm]
  constructor
  case modelType => exact looks _
  all_goals exact looks _

/-- A text that is read as an object is read as a configuration. -/
theorem parse?_of_object {body : String} (read : Value.parse body = .ok (.object members)) :
    parse? body = some (ofMembers members) := by
  rw [parse?, read]
  rfl

theorem firstUsable_vectorWidth :
    FirstUsable members ["hidden_size", "d_model"] (ofMembers members).vectorWidth := by
  have chain : FirstUsable members ["hidden_size", "d_model"] _ := FirstUsable.nil.cons.cons
  rwa [Option.or_none] at chain

theorem firstUsable_vocabSize :
    FirstUsable members ["vocab_size"] (ofMembers members).vocabSize := by
  have chain : FirstUsable members ["vocab_size"] _ := FirstUsable.nil.cons
  rwa [Option.or_none] at chain

theorem firstUsable_positionLimit :
    FirstUsable members ["max_position_embeddings", "max_seq_length", "n_positions"]
      (ofMembers members).positionLimit := by
  have chain :
      FirstUsable members ["max_position_embeddings", "max_seq_length", "n_positions"] _ :=
    FirstUsable.nil.cons.cons.cons
  rwa [Option.or_none, ← Option.or_assoc] at chain

end ModelConfig

namespace ModelFacts

/-- What is said of a model, from the members of its configuration and the limit of its sentence
    encoder. -/
structure FollowsFrom (entry : ListedModel) (members : List (String × Value))
    (sentenceLimit : Option Nat) (info : ModelFacts) : Prop where
  modelId : info.modelId = entry.modelId
  sizeLabel : info.sizeLabel = entry.sizeLabel
  isSparse : info.isSparse = entry.isSparse
  numParameters : info.numParameters = (unknown entry).numParameters
  modelType : ∀ t, info.modelType = some t ↔ Counts members "model_type" (.text t)
  sparseDim : entry.isSparse = true → FirstUsable members ["vocab_size"] info.embeddingDim
  denseDim : entry.isSparse = false →
    FirstUsable members ["hidden_size", "d_model"] info.embeddingDim
  encoderLimit : ∀ limit, sentenceLimit = some limit → entry.isSparse = false →
    info.maxSeqLength = some limit
  ownLimit : sentenceLimit = none ∨ entry.isSparse = true →
    FirstUsable members ["max_position_embeddings", "max_seq_length", "n_positions"]
      info.maxSeqLength

/-- Configurations have no say in what a model is, nor in how many parameters it has. -/
theorem withConfigs_keeps (info : ModelFacts) (config : Option ModelConfig)
    (sentenceLimit : Option Nat) :
    (info.withConfigs config sentenceLimit).modelId = info.modelId ∧
      (info.withConfigs config sentenceLimit).sizeLabel = info.sizeLabel ∧
      (info.withConfigs config sentenceLimit).isSparse = info.isSparse ∧
      (info.withConfigs config sentenceLimit).numParameters = info.numParameters := by
  cases config <;> cases sparse : info.isSparse <;> simp [withConfigs, sparse]

theorem withConfigs_sparse {entry : ListedModel} (sparse : entry.isSparse = true) (c : ModelConfig)
    (sentenceLimit : Option Nat) :
    (unknown entry).withConfigs (some c) sentenceLimit =
      { unknown entry with
        modelType := c.modelType, embeddingDim := c.vocabSize,
        maxSeqLength := c.positionLimit } := by
  simp [withConfigs, unknown, sparse]

theorem withConfigs_dense {entry : ListedModel} (dense : entry.isSparse = false) (c : ModelConfig)
    (sentenceLimit : Option Nat) :
    (unknown entry).withConfigs (some c) sentenceLimit =
      { unknown entry with
        modelType := c.modelType, embeddingDim := c.vectorWidth
        maxSeqLength := sentenceLimit.or c.positionLimit } := by
  simp [withConfigs, unknown, dense]

theorem followsFrom_ofMembers (entry : ListedModel) (members : List (String × Value))
    (sentenceLimit : Option Nat) :
    FollowsFrom entry members sentenceLimit
      ((unknown entry).withConfigs (some (.ofMembers members)) sentenceLimit) := by
  obtain ⟨modelId, sizeLabel, isSparse, numParameters⟩ :=
    withConfigs_keeps (unknown entry) (some (.ofMembers members)) sentenceLimit
  have type (t : String) :
      (ModelConfig.ofMembers members).modelType = some t ↔ Counts members "model_type" (.text t) :=
    Json.bind_lastMember?_eq_some_iff (fun _ _ => Value.text?_eq_some_iff) t
  cases kind : entry.isSparse with
  | true =>
    rw [withConfigs_sparse kind] at *
    constructor
    case sparseDim => exact fun _ => ModelConfig.firstUsable_vocabSize
    case denseDim => intro dense; simp [kind] at dense
    case encoderLimit => intro _ _ dense; simp [kind] at dense
    case ownLimit => exact fun _ => ModelConfig.firstUsable_positionLimit
    all_goals assumption
  | false =>
    rw [withConfigs_dense kind] at *
    constructor
    case sparseDim => intro sparse; simp [kind] at sparse
    case denseDim => exact fun _ => ModelConfig.firstUsable_vectorWidth
    case encoderLimit =>
      rintro limit rfl _
      rfl
    case ownLimit =>
      rintro (rfl | sparse)
      · exact ModelConfig.firstUsable_positionLimit
      · simp [kind] at sparse
    all_goals assumption

end ModelFacts

/-- **One key, one field.** Of two objects that differ under one key, both are read as
    configurations, and these agree in all fields but the one of that name. What either of them says
    of a model is what its own members say: the type, the first usable number of dimensions, and the
    first usable limit, unless the sentence encoder of a dense model has one. -/
theorem one_key_one_field {name body body' : String} {members members' : List (String × Value)}
    (read : Value.parse body = .ok (.object members))
    (read' : Value.parse body' = .ok (.object members')) (same : SameBut name members members') :
    ∃ c c', ModelConfig.parse? body = some c ∧ ModelConfig.parse? body' = some c' ∧
      c.SameBut name c' ∧ (name ∉ ModelConfig.keys → c = c') ∧
      ∀ entry sentenceLimit,
        ModelFacts.FollowsFrom entry members sentenceLimit
            ((ModelFacts.unknown entry).withConfigs (some c) sentenceLimit) ∧
          ModelFacts.FollowsFrom entry members' sentenceLimit
            ((ModelFacts.unknown entry).withConfigs (some c') sentenceLimit) := by
  have agree := ModelConfig.sameBut_ofMembers same
  refine ⟨_, _, ModelConfig.parse?_of_object read, ModelConfig.parse?_of_object read', agree,
    agree.eq, fun entry sentenceLimit => ⟨?_, ?_⟩⟩
  · exact ModelFacts.followsFrom_ofMembers entry members sentenceLimit
  · exact ModelFacts.followsFrom_ofMembers entry members' sentenceLimit

/-- Two configurations in different orders. In the first one the width is given twice, and the last
    time it is no number. -/
def brokenWidth : String :=
  "\x7b\"model_type\": \"bert\", \"hidden_size\": 384, " ++
    "\"hidden_size\": \"oops\", \"d_model\": 768\x7d"

def givenWidth : String :=
  "\x7b\"d_model\": 768, \"hidden_size\": 384, \"model_type\": \"bert\"\x7d"

def brokenMembers : List (String × Value) :=
  [("model_type", .text "bert"), ("hidden_size", .nat 384), ("hidden_size", .text "oops"),
   ("d_model", .nat 768)]

def givenMembers : List (String × Value) :=
  [("d_model", .nat 768), ("hidden_size", .nat 384), ("model_type", .text "bert")]

theorem sameBut_width : SameBut "hidden_size" brokenMembers givenMembers := by
  intro key other v
  rw [← Value.lastMember?_eq_some_iff, ← Value.lastMember?_eq_some_iff]
  have same : Value.lastMember? key brokenMembers = Value.lastMember? key givenMembers := by
    by_cases model : "d_model" = key
    · subst model
      rfl
    · by_cases type : "model_type" = key
      · subst type
        rfl
      · simp [Value.lastMember?, brokenMembers, givenMembers, model, type, other.symm]
  rw [same]

/-- Without a usable width the other key counts, and nothing else changes. -/
theorem brokenWidth_one_field :
    Value.parse brokenWidth = .ok (.object brokenMembers) ∧
      Value.parse givenWidth = .ok (.object givenMembers) ∧
      SameBut "hidden_size" brokenMembers givenMembers ∧
      ∃ c c', ModelConfig.parse? brokenWidth = some c ∧ ModelConfig.parse? givenWidth = some c' ∧
        c.SameBut "hidden_size" c' ∧ ("hidden_size" ∉ ModelConfig.keys → c = c') ∧
        ∀ entry sentenceLimit,
          ModelFacts.FollowsFrom entry brokenMembers sentenceLimit
              ((ModelFacts.unknown entry).withConfigs (some c) sentenceLimit) ∧
            ModelFacts.FollowsFrom entry givenMembers sentenceLimit
              ((ModelFacts.unknown entry).withConfigs (some c') sentenceLimit) := by
  have read : Value.parse brokenWidth = .ok (.object brokenMembers) := by with_unfolding_all rfl
  have read' : Value.parse givenWidth = .ok (.object givenMembers) := by with_unfolding_all rfl
  exact ⟨read, read', sameBut_width, one_key_one_field read read' sameBut_width⟩

end EmbeddingLatency
