import EmbeddingLatency.Proofs.Onnx.PaddedRows
import Mathlib.Data.List.OfFn
import Mathlib.Data.List.FinRange

/-!
# Unmasked tokens

Pooling looks at the rows of the unmasked tokens of a text and at nothing else.
`MaskedRows.unmasked` says which rows these are by their places in the buffer, and pooled are these
rows (`TokenOutput.pool_eq`). What stands at masked places, how many of these there are and where
they stand is not in the list, so two outputs with the same unmasked rows are pooled alike,
whatever their shapes.
-/

set_option autoImplicit false

namespace EmbeddingLatency.Onnx

/-- The tokens of a text, with a mask bit and a row of numbers for each. -/
structure MaskedRows (α : Type) (seqLen width : Nat) where
  mask : List Int
  /-- All rows, one behind the other. -/
  cells : List α
  mask_length : mask.length = seqLen
  cells_length : cells.length = seqLen * width

namespace MaskedRows

variable {α : Type} {seqLen width : Nat}

/-- The mask bit of a token. -/
def bit (t : MaskedRows α seqLen width) (j : Fin seqLen) : Int :=
  t.mask.get (j.cast t.mask_length.symm)

/-- The row of a token. -/
def row (t : MaskedRows α seqLen width) (j : Fin seqLen) : List α :=
  (t.cells.drop (j * width)).take width

/-- The rows of the tokens whose mask bit is set, in their order. -/
def unmasked (t : MaskedRows α seqLen width) : List (List α) :=
  ((List.finRange seqLen).filter fun j => t.bit j ≠ 0).map t.row

theorem mask_eq (t : MaskedRows α seqLen width) : t.mask = (List.finRange seqLen).map t.bit := by
  obtain ⟨mask, cells, rfl, _⟩ := t
  exact (List.map_get_finRange mask).symm

theorem rows_eq (wide : 0 < width) (t : MaskedRows α seqLen width) :
    batches width t.cells = (List.finRange seqLen).map t.row := by
  rw [batches_of_full wide t.cells_length, ← List.map_coe_finRange_eq_range, List.map_map]
  rfl

theorem length_row (t : MaskedRows α seqLen width) (j : Fin seqLen) : (t.row j).length = width :=
  length_batchAt t.cells_length j.isLt

theorem length_of_mem_unmasked {t : MaskedRows α seqLen width} {row : List α}
    (member : row ∈ t.unmasked) : row.length = width := by
  obtain ⟨j, -, rfl⟩ := List.mem_map.mp member
  exact t.length_row j

/-- The rows that are kept for pooling are the unmasked ones. -/
theorem keptRows_eq (wide : 0 < width) (t : MaskedRows α seqLen width) :
    keptRows (batches width t.cells) t.mask = t.unmasked := by
  rw [rows_eq wide, mask_eq, keptRows, List.zip_map', List.filter_map, List.map_map]
  rfl

theorem unmasked_eq_nil {t : MaskedRows α seqLen width} (masked : ∀ j, t.bit j = 0) :
    t.unmasked = [] := by
  rw [unmasked, List.map_eq_nil_iff, List.filter_eq_nil_iff]
  intro j _
  simpa using masked j

end MaskedRows

/-- What a graph answers for a batch of `count` texts: a row for each token of the padded batch,
    with the mask of the batch beside it. The first axis is whatever the graph says. -/
structure TokenOutput (count width : Nat) where
  firstAxis : Int
  seqLen : Nat
  mask : List Int
  flat : List Float32
  long : 0 < seqLen
  mask_length : mask.length = count * seqLen
  flat_length : flat.length = count * (seqLen * width)

namespace TokenOutput

variable {count width : Nat}

/-- The part of the output and of the mask that belongs to a text. -/
def text (o : TokenOutput count width) (i : Fin count) : MaskedRows Float32 o.seqLen width where
  mask := batchAt o.seqLen o.mask i
  cells := batchAt (o.seqLen * width) o.flat i
  mask_length := length_batchAt o.mask_length i.isLt
  cells_length := length_batchAt o.flat_length i.isLt

/-- The vectors of the texts. -/
def pool (kind : VectorKind) (o : TokenOutput count width) : Except Fault (List Embedding) :=
  Onnx.pool kind count o.seqLen o.mask [o.firstAxis, o.seqLen, width] o.flat

theorem pool_eq (kind : VectorKind) (wide : 0 < width) (o : TokenOutput count width) :
    o.pool kind = .ok ((List.finRange count).map fun i =>
      pooled kind width (o.text i).unmasked) := by
  rw [pool, pool_texts kind o.long wide o.mask_length o.flat_length,
    ← List.map_coe_finRange_eq_range, List.map_map]
  congr 1
  refine List.map_congr_left fun i _ => ?_
  exact congrArg (pooled kind width) (MaskedRows.keptRows_eq wide (o.text i))

end TokenOutput

section Columns

variable {α β : Type} {width : Nat} {rows : List (List α)} {f : β → α → β} {start : List β}

/-- Rows of one width keep the width when they are gathered column by column. -/
theorem length_foldl_zipWith (full : ∀ row ∈ rows, row.length = width)
    (long : start.length = width) :
    (rows.foldl (fun gathered row => gathered.zipWith f row) start).length = width := by
  induction rows generalizing start with
  | nil => exact long
  | cons row rows ih =>
    rw [List.foldl_cons]
    refine ih (fun row member => full row (List.mem_cons_of_mem _ member)) ?_
    rw [List.length_zipWith, long, full row List.mem_cons_self, Nat.min_self]

theorem length_scaledToUnit (v : Embedding) : (scaledToUnit v).length = v.length := by
  rw [scaledToUnit]
  split_ifs
  · exact List.length_map _
  · rfl

theorem length_finished (kind : VectorKind) (v : Embedding) :
    (finished kind v).length = v.length := by
  cases kind with
  | dense => exact length_scaledToUnit v
  | sparse => rfl

/-- A pooled vector is as wide as the rows. -/
theorem length_pooled (kind : VectorKind) {kept : List Embedding}
    (full : ∀ row ∈ kept, row.length = width) : (pooled kind width kept).length = width := by
  cases kind with
  | dense =>
    have sums :=
      length_foldl_zipWith (f := (· + ·)) full (List.length_replicate (a := (0 : Float32)))
    rw [pooled, length_scaledToUnit, meanPool]
    split_ifs
    · exact sums
    · exact (List.length_map _).trans sums
  | sparse => exact length_foldl_zipWith full List.length_replicate

end Columns

section Zeros

/-- Squares of zeros add up to a zero, whose sign depends on whether there are any. -/
theorem foldl_squares_zeros (width : Nat) :
    (List.replicate width (0 : Float32)).foldl (fun sum x => sum + x * x) (-0.0) = -0.0 ∨
      (List.replicate width (0 : Float32)).foldl (fun sum x => sum + x * x) (-0.0) = 0 := by
  have stays : ∀ n, (List.replicate n (0 : Float32)).foldl (fun sum x => sum + x * x) 0 = 0 := by
    intro n
    induction n with
    | zero => rfl
    | succ n ih =>
      have step : (0 : Float32) + 0 * 0 = 0 := by decide
      rw [List.replicate_succ, List.foldl_cons, step, ih]
  cases width with
  | zero => exact .inl rfl
  | succ n =>
    have step : (-0.0 : Float32) + 0 * 0 = 0 := by decide
    right
    rw [List.replicate_succ, List.foldl_cons, step, stays]

/-- A vector of zeros is too short to be scaled. -/
theorem scaledToUnit_zeros (width : Nat) :
    scaledToUnit (List.replicate width 0) = List.replicate width 0 := by
  have short : ¬ leastNorm ≤ (-0.0 : Float32).sqrt ∧ ¬ leastNorm ≤ (0 : Float32).sqrt := by decide
  rw [scaledToUnit]
  rcases foldl_squares_zeros width with zero | zero
  · simp only [zero, if_neg short.1]
  · simp only [zero, if_neg short.2]

theorem pooled_nil (kind : VectorKind) (width : Nat) :
    pooled kind width [] = List.replicate width 0 := by
  cases kind with
  | dense => exact scaledToUnit_zeros width
  | sparse => rfl

end Zeros

/-- **Masked tokens do not count.** Two outputs for batches of the same number of texts, padded to
    any lengths, whose texts have the same unmasked rows, are pooled to the same vectors, one for
    each text. The vector of a text without unmasked tokens is zero. -/
theorem pooling_ignores_masked_tokens (kind : VectorKind) {count width : Nat} (wide : 0 < width)
    (o o' : TokenOutput count width) (same : ∀ i, (o.text i).unmasked = (o'.text i).unmasked) :
    ∃ vectors, o.pool kind = .ok vectors ∧ o'.pool kind = .ok vectors ∧ vectors.length = count ∧
      ∀ i : Fin count, (∀ j, (o.text i).bit j = 0) →
      vectors[i.val]? = some (List.replicate width 0) := by
  refine ⟨_, o.pool_eq kind wide, ?other, by simp, ?zero⟩
  case other => simp only [o'.pool_eq kind wide, same]
  case zero =>
    intro i masked
    rw [List.getElem?_map, List.getElem?_eq_getElem (by simp), List.getElem_finRange,
      Option.map_some]
    congr 1
    exact (congrArg _ (MaskedRows.unmasked_eq_nil masked)).trans (pooled_nil kind width)

/-- Two texts of which the first has one token and the second has none, padded to two places. -/
def shortlyPadded : TokenOutput 2 1 where
  firstAxis := 2
  seqLen := 2
  mask := [1, 0, 0, 0]
  flat := [3.0, 5.0, 7.0, 9.0]
  long := by decide
  mask_length := rfl
  flat_length := rfl

/-- The same texts in three places, with other rows where there are no tokens. -/
def widelyPadded : TokenOutput 2 1 where
  firstAxis := -1
  seqLen := 3
  mask := [0, 0, 1, 0, 0, 0]
  flat := [0.0 / 0.0, 1.0 / 0.0, 3.0, 0.0, 0.0 / 0.0, 2.0]
  long := by decide
  mask_length := rfl
  flat_length := rfl

theorem padded_pooled_alike : ∃ vectors, shortlyPadded.pool .dense = .ok vectors ∧
    widelyPadded.pool .dense = .ok vectors ∧ vectors.length = 2 ∧
      ∀ i : Fin 2, (∀ j, (shortlyPadded.text i).bit j = 0) →
      vectors[i.val]? = some (List.replicate 1 0) :=
  pooling_ignores_masked_tokens .dense Nat.one_pos shortlyPadded widelyPadded (by decide)

end EmbeddingLatency.Onnx
