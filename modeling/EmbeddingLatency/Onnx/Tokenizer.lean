import EmbeddingLatency.Fault
import EmbeddingLatency.Json.Value
import EmbeddingLatency.Onnx.Batch
import EmbeddingLatency.Text.Blank
import EmbeddingLatency.Text.Lowercase

/-!
# Tokenizers

A tokenizer is anything that encodes texts, each on its own. Word tokenizers are the kind that
models are loaded with: a text is cut into words at white space, in lower case if the tokenizer
asks for it. A word's number is its place in the vocabulary; words outside of it have the number of
the word for unknown words. The template puts special words around the tokens of the text. Texts
are cut off on the right so that the whole encoding keeps to a limit. Words are looked up before
anything is cut off.
-/

set_option autoImplicit false

namespace EmbeddingLatency.Onnx

/-- Ways to encode texts, each on its own and within a limit on the number of tokens. -/
class TextEncoder (T : Type) where
  encode : T → (limit : Nat) → String → Except Fault Encoding
  aligned : ∀ {tokenizer : T} {limit : Nat} {text : String} {e : Encoding},
    encode tokenizer limit text = .ok e → e.Aligned

/-- A part of a template, with the type that its tokens have. -/
inductive TemplatePart where
  /-- The tokens of the text. -/
  | text (typeId : Nat)
  /-- One special word. -/
  | special (word : String) (typeId : Nat)
  deriving DecidableEq, Repr

/-- A tokenizer that knows a list of words. -/
structure Tokenizer where
  vocabulary : List String
  /-- The word that stands for words outside of the vocabulary. -/
  unknown : String
  lowercase : Bool
  template : List TemplatePart
  deriving DecidableEq, Repr

namespace Tokenizer

/-- The template that adds nothing. -/
def bareTemplate : List TemplatePart := [.text 0]

/-- The number of a word: its last place in the vocabulary. -/
def id? (t : Tokenizer) (word : String) : Option Nat :=
  (t.vocabulary.zipIdx.reverse.find? (·.1 = word)).map (·.2)

/-- The words of a text. -/
def words (t : Tokenizer) (text : String) : List String :=
  let characters := if t.lowercase then Text.lowercased text.toList else text.toList
  (Text.words characters).map String.ofList

/-- What is said where there is no word for unknown words. -/
def missingUnknown : Fault :=
  .inference
    "tokenization failed: WordLevel error: Missing [UNK] token from the vocabulary"

/-- The number of a word of a text. -/
def lookUp (t : Tokenizer) (word : String) : Except Fault Nat :=
  match (t.id? word).or (t.id? t.unknown) with
  | some id => .ok id
  | none => .error missingUnknown

/-- The number of special words that the template adds. -/
def specialCount (t : Tokenizer) : Nat :=
  t.template.countP fun
    | .special _ _ => true
    | .text _ => false

/-- The numbers and types of a part of the template. -/
def partTokens (t : Tokenizer) (ids : List Nat) : TemplatePart → List (Nat × Nat)
  | .text typeId => ids.map fun id => (id, typeId)
  | .special word typeId => [((t.id? word).getD 0, typeId)]

/-- Encodes a text within a limit on the number of tokens. -/
def encode (t : Tokenizer) (limit : Nat) (text : String) : Except Fault Encoding := do
  let ids ← (t.words text).mapM t.lookUp
  let kept := ids.take (limit - t.specialCount)
  let tokens := t.template.flatMap (t.partTokens kept)
  return {
    ids := tokens.map fun p => p.1
    mask := tokens.map fun _ => 1
    typeIds := tokens.map fun p => p.2 }

theorem aligned_of_encode {t : Tokenizer} {limit : Nat} {text : String} {e : Encoding}
    (encoded : t.encode limit text = .ok e) : e.Aligned := by
  unfold encode at encoded
  cases looked : (t.words text).mapM t.lookUp with
  | error fault =>
    rw [looked] at encoded
    cases encoded
  | ok ids =>
    rw [looked] at encoded
    cases encoded
    constructor <;> rw [Encoding.length, List.length_map, List.length_map]

instance : TextEncoder Tokenizer := ⟨encode, aligned_of_encode⟩

/-- The number of types that tokens can have: a type is a number of 32 bits. -/
def typeCount : Nat := Nat.pow 2 32

/-- A part of a template: a name and a type, where `$A` stands for the text. -/
def part? : Json.Value → Option TemplatePart
  | .array [.text name, .number (.natural typeId)] =>
    if typeId < typeCount then
      some (if name = "$A" then .text typeId else .special name typeId)
    else none
  | _ => none

/-- The value under a key, if there is one, must be of the right kind. -/
def setting? {α : Type} (v : Json.Value) (key : String) (default : α)
    (read : Json.Value → Option α) : Option α :=
  match v.get? key with
  | none => some default
  | some .null => some default
  | some v => read v

/-- The tokenizer that a JSON document describes. -/
def ofJson? (v : Json.Value) : Option Tokenizer := do
  let words ← (← v.get? "vocab").array?
  return {
    vocabulary := ← words.mapM Json.Value.text?
    unknown := ← setting? v "unk" "[UNK]" Json.Value.text?
    lowercase := ← setting? v "lowercase" false Json.Value.bool?
    template := ← setting? v "template" bareTemplate fun parts => do (← parts.array?).mapM part? }

end Tokenizer

end EmbeddingLatency.Onnx
