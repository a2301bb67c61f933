/-!
# Encoded batches

A tokenizer turns a text into token numbers, each with a mask bit and a type. A batch of texts is
padded on the right to its longest text with zeros in all three, and written row by row.
-/

set_option autoImplicit false

namespace EmbeddingLatency.Onnx

/-- An encoded text: three numbers for each token. -/
structure Encoding where
  ids : List Int
  mask : List Int
  typeIds : List Int
  deriving DecidableEq, Repr

namespace Encoding

/-- The number of tokens. -/
def length (e : Encoding) : Nat := e.ids.length

/-- There is one mask bit and one type for each token. -/
structure Aligned (e : Encoding) : Prop where
  mask : e.mask.length = e.length
  typeIds : e.typeIds.length = e.length

end Encoding

/-- Texts in one rectangle, row by row: one row a text, one column a token. -/
structure TokenBatch where
  batchSize : Nat
  seqLen : Nat
  ids : List Int
  mask : List Int
  typeIds : List Int
  deriving DecidableEq, Repr

/-- The row with zeros behind it up to a length. -/
def paddedRow (length : Nat) (row : List Int) : List Int :=
  row ++ List.replicate (length - row.length) 0

namespace TokenBatch

/-- The length of the longest text. -/
def longest (encodings : List Encoding) : Nat :=
  (encodings.map Encoding.length).foldl max 0

/-- The batch of some encoded texts. -/
def ofEncodings (encodings : List Encoding) : TokenBatch :=
  let seqLen := longest encodings
  { batchSize := encodings.length
    seqLen
    ids := encodings.flatMap fun e => paddedRow seqLen e.ids
    mask := encodings.flatMap fun e => paddedRow seqLen e.mask
    typeIds := encodings.flatMap fun e => paddedRow seqLen e.typeIds }

end TokenBatch

/-- Padding reaches the length that it is given. -/
theorem length_paddedRow {length : Nat} {row : List Int} (h : row.length ≤ length) :
    (paddedRow length row).length = length := by
  simp [paddedRow]; omega

/-- What was padded stands in front. -/
theorem take_paddedRow (length : Nat) (row : List Int) :
    (paddedRow length row).take row.length = row := by
  simp [paddedRow]

end EmbeddingLatency.Onnx
