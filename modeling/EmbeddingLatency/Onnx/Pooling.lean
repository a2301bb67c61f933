import EmbeddingLatency.Batches
import EmbeddingLatency.Bench.Backend
import EmbeddingLatency.Decimal.Fixed
import EmbeddingLatency.Text.Quoted

/-!
# Pooling

A graph answers either one vector for each text, which has two axes, or one for each token, which
has three. Token vectors are pooled over the tokens whose mask bit is set: dense models take their
mean, sparse models the largest damped positive value in each column. Vectors of dense models are
scaled to unit length at last. An output whose axes do not fit the batch is refused.

Sparse pooling needs no arithmetic besides an order and the damping, so it is written for every
`Activation`.
-/

set_option autoImplicit false

namespace EmbeddingLatency.Onnx

/-- Numbers that sparse pooling works on. -/
class Activation (α : Type) where
  zero : α
  /-- The larger of two numbers; the first one if neither is larger. -/
  larger : α → α → α
  /-- The logarithm of one plus the number. -/
  log1p : α → α

/-- The logarithm of one plus a double that is not negative. Where the sum with one is rounded, the
    quotient makes up for it. -/
def log1p (x : Float) : Float :=
  let sum := 1.0 + x
  if sum == 1.0 || sum.isInf then x else sum.log * x / (sum - 1.0)

instance : Activation Float32 where
  zero := 0
  larger x y := if x.isNaN || x < y then y else x
  log1p x := (log1p x.toFloat).toFloat32

/-- The rows of tokens whose mask bit is set. -/
def keptRows {α : Type} (rows : List (List α)) (mask : List Int) : List (List α) :=
  ((rows.zip mask).filter fun p => p.2 ≠ 0).map (·.1)

/-- The largest damped positive values of each column, at least zero. -/
def sparsePool {α : Type} [Activation α] (width : Nat) (kept : List (List α)) : List α :=
  kept.foldl
    (fun pooled row =>
      pooled.zipWith
        (fun p x => Activation.larger p (Activation.log1p (Activation.larger x Activation.zero)))
        row)
    (List.replicate width Activation.zero)

/-- The mean of rows; zeros where there are none. -/
def meanPool (width : Nat) (kept : List Embedding) : Embedding :=
  let sums := kept.foldl (fun sums row => sums.zipWith (· + ·) row) (List.replicate width 0)
  if kept.isEmpty then sums else sums.map (· / Float32.ofNat kept.length)

/-- The length below which a vector is left as it is. -/
def leastNorm : Float32 := 1e-12

/-- The vector scaled to unit length. -/
def scaledToUnit (v : Embedding) : Embedding :=
  let norm := (v.foldl (fun sum x => sum + x * x) (-0.0)).sqrt
  if leastNorm ≤ norm then v.map (· / norm) else v

/-- The vector of a text whose tokens have been pooled. -/
def finished (kind : VectorKind) (v : Embedding) : Embedding :=
  match kind with
  | .dense => scaledToUnit v
  | .sparse => v

/-- The vector of a text from the rows of its tokens. -/
def pooled (kind : VectorKind) (width : Nat) (kept : List Embedding) : Embedding :=
  match kind with
  | .dense => scaledToUnit (meanPool width kept)
  | .sparse => sparsePool width kept

/-- The axes of an output as they are shown. -/
def shapeText (dims : List Int) : String := Text.bracketed (dims.map Decimal.integer)

/-- An output whose axes do not fit. -/
def shapeFault (dims : List Int) (detail : String) : Fault :=
  .inference ("unexpected output shape " ++ shapeText dims ++ detail)

/-- The length of an axis, which must be positive. -/
def axisLength (dims : List Int) (axis : Nat) : Except Fault Nat :=
  match dims[axis]? with
  | some d => if 0 < d then .ok d.toNat else .error (shapeFault dims "")
  | none => .error (shapeFault dims "")

theorem axisLength_of_pos {dims : List Int} {axis width : Nat}
    (found : dims[axis]? = some (width : Int))
    (wide : 0 < width) : axisLength dims axis = .ok width := by
  simp [axisLength, found, wide]

theorem axisLength_of_not_pos {dims : List Int} {axis : Nat} {length : Int}
    (found : dims[axis]? = some length) (empty : ¬ 0 < length) :
    axisLength dims axis = .error (shapeFault dims "") := by
  simp [axisLength, found, empty]

/-- The number of items is not that of the axes. -/
def countFault (dims : List Int) : Fault := shapeFault dims ": element count does not match batch"

/-- One vector for each of `batchSize` texts from the output of a graph. The texts have been padded
    to `seqLen` tokens; `mask` tells, row by row, which tokens are their own. -/
def pool (kind : VectorKind) (batchSize seqLen : Nat) (mask : List Int) (dims : List Int)
    (flat : List Float32) : Except Fault (List Embedding) :=
  match dims.length with
  | 2 => do
    let width ← axisLength dims 1
    if flat.length ≠ batchSize * width then .error (countFault dims)
    else .ok ((batches width flat).map (finished kind))
  | 3 => do
    let width ← axisLength dims 2
    let tokens ← axisLength dims 1
    if tokens ≠ seqLen then
      .error (shapeFault dims ": sequence axis does not match input")
    else if flat.length ≠ batchSize * (seqLen * width) then .error (countFault dims)
    else
      .ok ((batches (seqLen * width) flat).zipWith
        (fun rows bits => pooled kind width (keptRows (batches width rows) bits))
        (batches seqLen mask))
  | _ => .error (shapeFault dims ": expected rank 2 or 3")

end EmbeddingLatency.Onnx
