/-!
# The catalog of models

A catalog entry is a model with the size label under which reports group it. Two curated sets
exist: a quick one and a full one. In a catalog all dense models stand before all sparse ones.
Reports order size labels by `sizePlace`; labels that it does not know come last.
-/

set_option autoImplicit false

namespace EmbeddingLatency

/-- The family of a model, which decides how its output is pooled. -/
inductive VectorKind where
  /-- One vector of unit length for a text. -/
  | dense
  /-- One weight for every word of the vocabulary. -/
  | sparse
  deriving DecidableEq, Repr

namespace VectorKind

/-- The name of a kind. -/
def name : VectorKind → String
  | .dense => "dense"
  | .sparse => "sparse"

/-- The name of a kind in diagnostics. -/
def title : VectorKind → String
  | .dense => "Dense"
  | .sparse => "Sparse"

/-- All kinds by their names. -/
def names : List (String × VectorKind) := [("dense", .dense), ("sparse", .sparse)]

end VectorKind

/-- A model that can be benchmarked. -/
structure ListedModel where
  sizeLabel : String
  modelId : String
  kind : VectorKind
  deriving DecidableEq, Repr

/-- Does the entry belong to the sparse models? -/
def ListedModel.isSparse (e : ListedModel) : Bool := e.kind = .sparse

/-- The models to benchmark, in the order in which they run. -/
structure Catalog where
  entries : List ListedModel
  deriving DecidableEq, Repr

namespace Catalog

/-- The dense models of the quick set. -/
def selectedDense : List (String × String) :=
  [("small", "sentence-transformers/all-MiniLM-L6-v2"),
   ("medium", "sentence-transformers/all-mpnet-base-v2"),
   ("large", "BAAI/bge-large-en-v1.5")]

/-- The dense models of the full set, from tiny ones to specialized ones. -/
def comprehensiveDense : List (String × String) :=
  [("tiny-minilm-l6", "sentence-transformers/all-MiniLM-L6-v2"),
   ("tiny-minilm-l3", "sentence-transformers/paraphrase-MiniLM-L3-v2"),
   ("small-minilm-l12", "sentence-transformers/all-MiniLM-L12-v2"),
   ("small-bge", "BAAI/bge-small-en-v1.5"),
   ("medium-mpnet", "sentence-transformers/all-mpnet-base-v2"),
   ("medium-bge", "BAAI/bge-base-en-v1.5"),
   ("medium-gte", "thenlper/gte-base"),
   ("medium-e5", "intfloat/e5-base-v2"),
   ("large-bge", "BAAI/bge-large-en-v1.5"),
   ("large-gte", "thenlper/gte-large"),
   ("large-e5", "intfloat/e5-large-v2"),
   ("multi-minilm", "sentence-transformers/paraphrase-multilingual-MiniLM-L12-v2"),
   ("multi-e5", "intfloat/multilingual-e5-base"),
   ("code-jina", "jinaai/jina-embeddings-v2-base-code"),
   ("long-jina", "jinaai/jina-embeddings-v2-base-en"),
   ("matryoshka-nomic", "nomic-ai/nomic-embed-text-v1.5")]

/-- The sparse models of both sets. -/
def sparseModels : List (String × String) :=
  [("sparse-small", "prithivida/Splade_PP_en_v1"),
   ("sparse-large", "naver/efficient-splade-VI-BT-large-query")]

/-- A catalog from given entries: the dense ones first, otherwise in the given order. -/
def ofEntries (entries : List ListedModel) : Catalog :=
  ⟨entries.filter (!·.isSparse) ++ entries.filter (·.isSparse)⟩

/-- A catalog from labels and names. -/
def ofTables (dense sparse : List (String × String)) : Catalog :=
  ofEntries (dense.map (fun (l, m) => ⟨l, m, .dense⟩) ++ sparse.map (fun (l, m) => ⟨l, m, .sparse⟩))

/-- The set of five models. -/
def quick : Catalog := ofTables selectedDense sparseModels

/-- The comprehensive set. -/
def full : Catalog := ofTables comprehensiveDense sparseModels

/-- The dense models of a catalog. -/
def dense (c : Catalog) : List ListedModel := c.entries.filter (!·.isSparse)

/-- The sparse models of a catalog. -/
def sparse (c : Catalog) : List ListedModel := c.entries.filter (·.isSparse)

end Catalog

/-- The places of the known size labels in the reports. -/
def sizePlaces : List (String × Nat) :=
  [("tiny-minilm-l6", 1), ("tiny-minilm-l3", 2), ("small", 10), ("small-minilm-l12", 11),
   ("small-bge", 12), ("medium", 20), ("medium-mpnet", 21), ("medium-bge", 22),
   ("medium-gte", 23), ("medium-e5", 24), ("large", 30), ("large-bge", 31), ("large-gte", 32),
   ("large-e5", 33), ("multi-minilm", 40), ("multi-e5", 41), ("code-jina", 50),
   ("long-jina", 51), ("matryoshka-nomic", 52), ("sparse-small", 100), ("sparse-large", 101)]

/-- The rank of labels without a place. -/
def unlistedPlace : Nat := Nat.pow 2 32 - 1

/-- Has the label a place of its own? -/
def isKnownSize (label : String) : Bool := sizePlaces.any (·.1 = label)

/-- The place of a size label in the reports. -/
def sizePlace (label : String) : Nat :=
  match sizePlaces.find? (·.1 = label) with
  | some (_, rank) => rank
  | none => unlistedPlace

/-- Labels without a place come after every other label. -/
theorem sizePlace_lt_of_known {label : String} (h : isKnownSize label = true) :
    sizePlace label < unlistedPlace := by
  unfold sizePlace
  split
  · rename_i l rank hf
    have hm := List.mem_of_find?_eq_some hf
    have : ∀ p ∈ sizePlaces, p.2 < unlistedPlace := by decide
    exact this _ hm
  · rename_i hf
    simp only [isKnownSize, List.any_eq_true] at h
    obtain ⟨p, hp, he⟩ := h
    exact absurd he (by simpa using List.find?_eq_none.1 hf p hp)

end EmbeddingLatency
