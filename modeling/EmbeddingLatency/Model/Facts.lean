import EmbeddingLatency.Catalog
import EmbeddingLatency.Decimal.Fixed

/-!
# What is known of a model

Besides its identity everything about a model may be unknown. Parameter counts are shown in whole
millions, and from a billion on in billions with one decimal place.
-/

set_option autoImplicit false

namespace EmbeddingLatency

/-- What is known of a loaded model. -/
structure ModelFacts where
  modelId : String
  sizeLabel : String
  embeddingDim : Option Nat
  maxSeqLength : Option Nat
  numParameters : Option Nat
  modelType : Option String
  isSparse : Bool
  deriving DecidableEq, Repr

/-- A model of which only the identity is known. -/
def ModelFacts.unknown (entry : ListedModel) : ModelFacts where
  modelId := entry.modelId
  sizeLabel := entry.sizeLabel
  embeddingDim := none
  maxSeqLength := none
  numParameters := none
  modelType := none
  isSparse := entry.isSparse

/-- A parameter count in millions or billions. -/
def paramsText (n : Nat) : String :=
  if 1000000000 ≤ n then Decimal.fixed 1 (Decimal.ofNat n / 1000000000.0) ++ "B"
  else Decimal.fixed 0 (Decimal.ofNat n / 1000000.0) ++ "M"

end EmbeddingLatency
