import EmbeddingLatency.Onnx.Batch
import EmbeddingLatency.Onnx.Pooling

/-!
# Rows of padded batches

How the rows of a batch are found again. The numbers of a text stand at the beginning of its row,
and zeros follow. Zeros in a mask keep no rows, so what is pooled does not depend on how far a text
has been padded, nor on what stands in a row whose mask bit is not set.
-/

set_option autoImplicit false

namespace EmbeddingLatency.Onnx

/-- A batch of a batch is a batch of the whole: rows of a rectangle are found by their place
    in the buffer. -/
theorem batchAt_batchAt {α : Type} {seqLen width i j : Nat} (column : j < seqLen) (flat : List α) :
    batchAt width (batchAt (seqLen * width) flat i) j = batchAt width flat (i * seqLen + j) := by
  have inside : (j + 1) * width ≤ seqLen * width := Nat.mul_le_mul_right _ column
  have place : i * (seqLen * width) + j * width = (i * seqLen + j) * width := by
    rw [Nat.add_mul, Nat.mul_assoc]
  rw [Nat.succ_mul] at inside
  rw [batchAt, batchAt, batchAt, List.drop_take, List.take_take, List.drop_drop, place,
    Nat.min_eq_left (by omega)]

section Padding

variable {seqLen : Nat} {rows : List (List Int)}

/-- The row of a text is found in the batch at its own place. -/
theorem batchAt_paddedRows (long : 0 < seqLen) (fits : ∀ row ∈ rows, row.length ≤ seqLen) {i : Nat}
    {row : List Int} (found : rows[i]? = some row) :
    batchAt seqLen (rows.flatMap (paddedRow seqLen)) i = paddedRow seqLen row := by
  rw [List.flatMap_def]
  refine batchAt_flatten long ?_ (by rw [List.getElem?_map, found]; rfl)
  intro padded member
  obtain ⟨row, listed, rfl⟩ := List.mem_map.mp member
  exact length_paddedRow (fits row listed)

theorem length_paddedRows (fits : ∀ row ∈ rows, row.length ≤ seqLen) :
    (rows.flatMap (paddedRow seqLen)).length = rows.length * seqLen := by
  induction rows with
  | nil => simp
  | cons row others ih =>
    rw [List.flatMap_cons, List.length_append, length_paddedRow (fits row List.mem_cons_self),
      ih fun row member => fits row (List.mem_cons_of_mem _ member), List.length_cons, Nat.succ_mul,
      Nat.add_comm]

end Padding

namespace TokenBatch

theorem foldl_max_le_iff {lengths : List Nat} {least bound : Nat} :
    lengths.foldl max least ≤ bound ↔ least ≤ bound ∧ ∀ n ∈ lengths, n ≤ bound := by
  induction lengths generalizing least with
  | nil => simp
  | cons first others ih => rw [List.foldl_cons, ih, Nat.max_le, List.forall_mem_cons, and_assoc]

theorem longest_le_iff {encodings : List Encoding} {bound : Nat} :
    longest encodings ≤ bound ↔ ∀ e ∈ encodings, e.length ≤ bound := by
  rw [longest, foldl_max_le_iff]
  simp

/-- No text is longer than the longest one. -/
theorem length_le_longest {encodings : List Encoding} {e : Encoding} (member : e ∈ encodings) :
    e.length ≤ longest encodings :=
  longest_le_iff.mp (Nat.le_refl _) e member

/-- One of the three parts of some encodings as it is written into a batch. -/
def buffer (encodings : List Encoding) (part : Encoding → List Int) : List Int :=
  encodings.flatMap fun e => paddedRow (longest encodings) (part e)

theorem ids_ofEncodings (encodings : List Encoding) :
    (ofEncodings encodings).ids = buffer encodings (·.ids) := rfl

theorem mask_ofEncodings (encodings : List Encoding) :
    (ofEncodings encodings).mask = buffer encodings (·.mask) := rfl

/-- What a batch holds are numbers of its texts and zeros. -/
theorem mem_buffer {encodings : List Encoding} {part : Encoding → List Int} {n : Int}
    (member : n ∈ buffer encodings part) : (∃ e ∈ encodings, n ∈ part e) ∨ n = 0 := by
  obtain ⟨e, listed, row⟩ := List.mem_flatMap.mp member
  rcases List.mem_append.mp row with own | padding
  · exact .inl ⟨e, listed, own⟩
  · exact .inr (List.eq_of_mem_replicate padding)

section Buffer

variable {encodings : List Encoding} {part : Encoding → List Int}
  (lengths : ∀ e ∈ encodings, (part e).length = e.length)

theorem buffer_eq (encodings : List Encoding) (part : Encoding → List Int) :
    buffer encodings part = (encodings.map part).flatMap (paddedRow (longest encodings)) := by
  rw [List.flatMap_map]
  rfl

include lengths

theorem fits_longest : ∀ row ∈ encodings.map part, row.length ≤ longest encodings := by
  intro row member
  obtain ⟨e, listed, rfl⟩ := List.mem_map.mp member
  rw [lengths e listed]
  exact length_le_longest listed

theorem length_buffer : (buffer encodings part).length = encodings.length * longest encodings := by
  rw [buffer_eq, length_paddedRows (fits_longest lengths), List.length_map]

theorem batchAt_buffer (long : 0 < longest encodings) {i : Nat} {e : Encoding}
    (found : encodings[i]? = some e) :
    batchAt (longest encodings) (buffer encodings part) i =
      paddedRow (longest encodings) (part e) := by
  rw [buffer_eq]
  exact batchAt_paddedRows long (fits_longest lengths) (by rw [List.getElem?_map, found]; rfl)

/-- A token of a text stands in the row of the text and in the column of its place. -/
theorem getElem?_buffer {i j : Nat} {e : Encoding} (found : encodings[i]? = some e)
    (token : j < e.length) :
    (buffer encodings part)[i * longest encodings + j]? = (part e)[j]? := by
  have member : e ∈ encodings := List.mem_of_getElem? found
  have column : j < longest encodings := Nat.lt_of_lt_of_le token (length_le_longest member)
  rw [← getElem?_batchAt column, batchAt_buffer lengths (by omega) found, paddedRow,
    List.getElem?_append_left (by rw [lengths e member]; exact token)]

end Buffer

end TokenBatch

section Masks

variable {α : Type}

/-- The first mask bit decides about the first row. -/
theorem keptRows_cons (rows : List (List α)) (bit : Int) (mask : List Int) :
    keptRows rows (bit :: mask) =
      (if bit ≠ 0 then rows.head?.toList else []) ++ keptRows rows.tail mask := by
  cases rows with
  | nil => simp [keptRows]
  | cons row rows => by_cases set : bit = 0 <;> simp [keptRows, set]

/-- Only rows whose mask bit is set are looked at. -/
theorem keptRows_congr {rows rows' : List (List α)} {mask : List Int}
    (same : ∀ (j : Nat) (bit : Int), mask[j]? = some bit → bit ≠ 0 → rows[j]? = rows'[j]?) :
    keptRows rows mask = keptRows rows' mask := by
  induction mask generalizing rows rows' with
  | nil => simp [keptRows]
  | cons bit mask ih =>
    have later : keptRows rows.tail mask = keptRows rows'.tail mask := by
      refine ih fun j bit found set => ?_
      rw [List.getElem?_tail, List.getElem?_tail]
      exact same (j + 1) bit found set
    rw [keptRows_cons, keptRows_cons, later]
    by_cases set : bit = 0
    · simp [set]
    · have first : rows.head? = rows'.head? := by
        rw [List.head?_eq_getElem?, List.head?_eq_getElem?]
        exact same 0 bit rfl set
      rw [first]

/-- Zeros at the end of a mask keep nothing. -/
theorem keptRows_append_zeros (rows : List (List α)) (mask : List Int) (n : Nat) :
    keptRows rows (mask ++ List.replicate n 0) = keptRows rows mask := by
  induction mask generalizing rows with
  | nil =>
    have unset : ∀ p ∈ rows.zip (List.replicate n (0 : Int)), p.2 = 0 := fun p member =>
      List.eq_of_mem_replicate (List.of_mem_zip member).2
    simpa [keptRows, List.filter_eq_nil_iff] using unset
  | cons bit mask ih => rw [List.cons_append, keptRows_cons, keptRows_cons, ih]

/-- Padding keeps nothing. -/
theorem keptRows_paddedRow (rows : List (List α)) (seqLen : Nat) (mask : List Int) :
    keptRows rows (paddedRow seqLen mask) = keptRows rows mask :=
  keptRows_append_zeros rows mask _

end Masks

/-- Token vectors that fit the batch are pooled text by text, each from its own part of the output
    and of the mask. Nothing looks at the first axis. -/
theorem pool_texts (kind : VectorKind) {first : Int} {count seqLen width : Nat} (long : 0 < seqLen)
    (wide : 0 < width) {mask : List Int} (bits : mask.length = count * seqLen) {flat : List Float32}
    (length : flat.length = count * (seqLen * width)) :
    pool kind count seqLen mask [first, seqLen, width] flat =
      .ok ((List.range count).map fun i =>
        pooled kind width
          (keptRows (batches width (batchAt (seqLen * width) flat i))
            (batchAt seqLen mask i))) := by
  have widthAxis : axisLength [first, seqLen, width] 2 = .ok width := axisLength_of_pos rfl wide
  have tokenAxis : axisLength [first, seqLen, width] 1 = .ok seqLen := axisLength_of_pos rfl long
  have parts := batches_of_full (Nat.mul_pos long wide) length
  have masks := batches_of_full long bits
  simp [pool, widthAxis, tokenAxis, length, parts, masks, List.zipWith_map, List.zipWith_self, bind,
    Except.bind]

end EmbeddingLatency.Onnx
