import EmbeddingLatency.Proofs.Onnx.Batching

/-!
# Writing batches

A batch is put together from padded rows. `TokenBatch.write?` makes it in another way: buffers of
zeros are laid out first, and the numbers of the texts are written over them one by one, each text
from the beginning of its row on. A write breaks off where the buffer does not have the place.

The texts that have been written stand in front of the rows that are still zero. Writing one more
text keeps it so (`writeText?_begun`). So no write breaks off, and what has been written at the end
is the batch. It has the numbers of each text in the row of the text and zeros everywhere else, and
it gives all texts back.
-/

set_option autoImplicit false

namespace EmbeddingLatency.Onnx

/-- The buffer with a number at a place, if it has this place. -/
def put? (buffer : List Int) (place : Nat) (x : Int) : Option (List Int) :=
  if place < buffer.length then some (buffer.set place x) else none

/-- The buffer with some numbers from a place on, if it has all their places. -/
def writeRow? (buffer : List Int) (place : Nat) : List Int → Option (List Int)
  | [] => some buffer
  | x :: row => do
    let buffer ← put? buffer place x
    writeRow? buffer (place + 1) row

/-- A buffer whose first rows are written. The rows that are left are zero. -/
def begunBuffer (seqLen left : Nat) (rows : List (List Int)) : List Int :=
  rows.flatMap (paddedRow seqLen) ++ List.replicate (left * seqLen) 0

section Rows

theorem put?_append (front back : List Int) (old x : Int) :
    put? (front ++ old :: back) front.length x = some (front ++ x :: back) := by
  rw [put?, if_pos (by simp), List.set_append_right _ _ (Nat.le_refl _), Nat.sub_self,
    List.set_cons_zero]

/-- A row is written over zeros if there are enough of them. -/
theorem writeRow?_zeros {row : List Int} {space : Nat} (room : row.length ≤ space)
    (front back : List Int) :
    writeRow? (front ++ (List.replicate space 0 ++ back)) front.length row =
      some (front ++ (paddedRow space row ++ back)) := by
  induction row generalizing space front with
  | nil => simp [writeRow?, paddedRow]
  | cons x row ih =>
    obtain ⟨space, rfl⟩ : ∃ rest, space = rest + 1 := Nat.exists_eq_succ_of_ne_zero (by
      rw [List.length_cons] at room
      omega)
    have room : row.length ≤ space := Nat.le_of_succ_le_succ room
    have next := ih room (front ++ [x])
    rw [List.length_append, List.length_singleton, List.append_assoc, List.append_assoc] at next
    rw [List.replicate_succ, List.cons_append, writeRow?, put?_append]
    refine next.trans ?_
    simp [paddedRow]

/-- The next row is written where the rows that are written end. -/
theorem writeRow?_begunBuffer {seqLen : Nat} {rows : List (List Int)} {row : List Int}
    (fits : ∀ row ∈ rows, row.length ≤ seqLen) (room : row.length ≤ seqLen) (left : Nat) :
    writeRow? (begunBuffer seqLen (left + 1) rows) (rows.length * seqLen) row =
      some (begunBuffer seqLen left (rows ++ [row])) := by
  have zeros : List.replicate ((left + 1) * seqLen) (0 : Int) =
      List.replicate seqLen 0 ++ List.replicate (left * seqLen) 0 := by
    rw [List.replicate_append_replicate, Nat.succ_mul, Nat.add_comm]
  unfold begunBuffer
  rw [zeros, ← length_paddedRows fits, writeRow?_zeros room, List.flatMap_append,
    List.flatMap_singleton, List.append_assoc]

/-- An entry of a padded row is a number of the row, or zero behind it. -/
theorem getElem?_paddedRow {row : List Int} {length j : Nat} (column : j < length) :
    (paddedRow length row)[j]? = some (row[j]?.getD 0) := by
  unfold paddedRow
  rcases Nat.lt_or_ge j row.length with inside | behind
  · rw [List.getElem?_append_left inside, List.getElem?_eq_getElem inside, Option.getD_some]
  · rw [List.getElem?_append_right behind, List.getElem?_replicate, if_pos (by omega),
      List.getElem?_eq_none behind, Option.getD_none]

end Rows

/-- A text that is not longer than a row. -/
structure Encoding.FitsIn (seqLen : Nat) (e : Encoding) : Prop where
  ids : e.ids.length ≤ seqLen
  mask : e.mask.length ≤ seqLen
  typeIds : e.typeIds.length ≤ seqLen

namespace TokenBatch

/-- The batch with the numbers of a text in the row of this number, if it has their places. -/
def writeText? (batch : TokenBatch) (i : Nat) (e : Encoding) : Option TokenBatch := do
  let ids ← writeRow? batch.ids (i * batch.seqLen) e.ids
  let mask ← writeRow? batch.mask (i * batch.seqLen) e.mask
  let typeIds ← writeRow? batch.typeIds (i * batch.seqLen) e.typeIds
  return { batch with ids, mask, typeIds }

/-- The batch with the numbers of some texts in the rows from a number on. -/
def writeTexts? (batch : TokenBatch) (i : Nat) : List Encoding → Option TokenBatch
  | [] => some batch
  | e :: rest => do
    let batch ← batch.writeText? i e
    batch.writeTexts? (i + 1) rest

/-- A batch whose first rows are those of some texts. The rows that are left are zero. -/
def begun (seqLen left : Nat) (done : List Encoding) : TokenBatch where
  batchSize := done.length + left
  seqLen := seqLen
  ids := begunBuffer seqLen left (done.map (·.ids))
  mask := begunBuffer seqLen left (done.map (·.mask))
  typeIds := begunBuffer seqLen left (done.map (·.typeIds))

/-- The batch of some encoded texts, written into zeros. -/
def write? (encodings : List Encoding) : Option TokenBatch :=
  (begun (longest encodings) encodings.length []).writeTexts? 0 encodings

section Write

variable {seqLen : Nat} {done encodings : List Encoding}

/-- What the next text makes of a batch that has been begun. -/
theorem writeText?_begun {e : Encoding} (fits : ∀ e ∈ done, e.FitsIn seqLen)
    (room : e.FitsIn seqLen) (left : Nat) :
    (begun seqLen (left + 1) done).writeText? done.length e =
      some (begun seqLen left (done ++ [e])) := by
  have written : ∀ part : Encoding → List Int, (∀ e ∈ done, (part e).length ≤ seqLen) →
      (part e).length ≤ seqLen →
      writeRow? (begunBuffer seqLen (left + 1) (done.map part)) (done.length * seqLen) (part e) =
        some (begunBuffer seqLen left ((done ++ [e]).map part)) := by
    intro part fits room
    have fits : ∀ row ∈ done.map part, row.length ≤ seqLen := by simpa using fits
    have next := writeRow?_begunBuffer fits room left
    rwa [List.length_map, ← List.map_singleton, ← List.map_append] at next
  have ids := written (·.ids) (fun e member => (fits e member).ids) room.ids
  have mask := written (·.mask) (fun e member => (fits e member).mask) room.mask
  have typeIds := written (·.typeIds) (fun e member => (fits e member).typeIds) room.typeIds
  unfold writeText? begun
  rw [ids, mask, typeIds, List.length_append, List.length_singleton, Nat.add_assoc, Nat.add_comm 1]
  rfl

/-- The texts that are left take the rows that are left. -/
theorem writeTexts?_begun (fits : ∀ e ∈ done ++ encodings, e.FitsIn seqLen) :
    (begun seqLen encodings.length done).writeTexts? done.length encodings =
      some (begun seqLen 0 (done ++ encodings)) := by
  induction encodings generalizing done with
  | nil => rw [List.append_nil, List.length_nil, writeTexts?]
  | cons e rest ih =>
    have first : ∀ e ∈ done, e.FitsIn seqLen := fun e member =>
      fits e (List.mem_append_left _ member)
    have next : e.FitsIn seqLen := fits e (List.mem_append_right _ List.mem_cons_self)
    have fits : ∀ text ∈ (done ++ [e]) ++ rest, text.FitsIn seqLen := by rwa [List.append_assoc]
    have later := ih fits
    rw [List.length_append, List.length_singleton, List.append_assoc] at later
    rw [List.length_cons, writeTexts?, writeText?_begun first next]
    exact later

theorem begun_zero (encodings : List Encoding) :
    begun (longest encodings) 0 encodings = ofEncodings encodings := by
  simp [begun, begunBuffer, ofEncodings, List.flatMap_map]

/-- No text writes outside of the buffers, and the batch is what they have written. -/
theorem write?_eq_some (aligned : ∀ e ∈ encodings, e.Aligned) :
    write? encodings = some (ofEncodings encodings) := by
  have fits : ∀ e ∈ encodings, e.FitsIn (longest encodings) := by
    intro e member
    have ids := length_le_longest member
    have even := aligned e member
    exact ⟨ids, even.mask ▸ ids, even.typeIds ▸ ids⟩
  rw [← begun_zero]
  exact writeTexts?_begun fits

end Write

/-- The texts of a batch, from their lengths: each has the beginning of its row. -/
def unpadded (batch : TokenBatch) (lengths : List Nat) : List Encoding :=
  lengths.mapIdx fun i length =>
    { ids := (batchAt batch.seqLen batch.ids i).take length
      mask := (batchAt batch.seqLen batch.mask i).take length
      typeIds := (batchAt batch.seqLen batch.typeIds i).take length }

/-- A buffer of one row for each text, with one of the text's parts and zeros behind it. -/
structure HoldsRows (encodings : List Encoding) (seqLen : Nat) (part : Encoding → List Int)
    (buffer : List Int) : Prop where
  length : buffer.length = encodings.length * seqLen
  entry : ∀ i e, encodings[i]? = some e → ∀ j < seqLen,
    buffer[i * seqLen + j]? = some ((part e)[j]?.getD 0)

/-- A batch that has been written from some texts and gives them back. -/
structure Lossless (encodings : List Encoding) (batch : TokenBatch) : Prop where
  written : write? encodings = some batch
  batchSize : batch.batchSize = encodings.length
  seqLen : (encodings.map Encoding.length).max? = some batch.seqLen
  ids : HoldsRows encodings batch.seqLen (·.ids) batch.ids
  mask : HoldsRows encodings batch.seqLen (·.mask) batch.mask
  typeIds : HoldsRows encodings batch.seqLen (·.typeIds) batch.typeIds
  recovered : batch.unpadded (encodings.map Encoding.length) = encodings

section Rows

variable {encodings : List Encoding} {part : Encoding → List Int}

theorem max?_lengths (nonempty : encodings ≠ []) :
    (encodings.map Encoding.length).max? = some (longest encodings) := by
  cases encodings with
  | nil => exact absurd rfl nonempty
  | cons e rest =>
    rw [List.map_cons, List.max?_cons', longest, List.map_cons, List.foldl_cons, Nat.zero_max]

theorem holdsRows_buffer (lengths : ∀ e ∈ encodings, (part e).length = e.length) :
    HoldsRows encodings (longest encodings) part (buffer encodings part) where
  length := length_buffer lengths
  entry := by
    intro i e found j column
    rw [← getElem?_batchAt column, batchAt_buffer lengths (Nat.zero_lt_of_lt column) found]
    exact getElem?_paddedRow column

/-- A row that is cut to the length of its text is the text again. -/
theorem take_batchAt_buffer (part : Encoding → List Int)
    (lengths : ∀ e ∈ encodings, (part e).length = e.length) {i : Nat} {e : Encoding}
    (found : encodings[i]? = some e) :
    (batchAt (longest encodings) (buffer encodings part) i).take e.length = part e := by
  have member : e ∈ encodings := List.mem_of_getElem? found
  rw [← lengths e member]
  rcases Nat.eq_zero_or_pos (longest encodings) with none | long
  · -- all texts are empty here, and rows without columns have no place of their own
    have empty : (part e).length = 0 := by
      have := length_le_longest member
      rw [lengths e member]
      omega
    rw [empty, List.take_zero, List.eq_nil_of_length_eq_zero empty]
  · rw [batchAt_buffer lengths long found]
    exact take_paddedRow _ _

theorem unpadded_ofEncodings (aligned : ∀ e ∈ encodings, e.Aligned) :
    (ofEncodings encodings).unpadded (encodings.map Encoding.length) = encodings := by
  apply List.ext_getElem?
  intro i
  rw [unpadded, List.getElem?_mapIdx, List.getElem?_map]
  cases found : encodings[i]? with
  | none => rfl
  | some e =>
    have ids := take_batchAt_buffer (·.ids) (fun _ _ => rfl) found
    have mask := take_batchAt_buffer (·.mask) (fun e member => (aligned e member).mask) found
    have typeIds :=
      take_batchAt_buffer (·.typeIds) (fun e member => (aligned e member).typeIds) found
    rw [Option.map_some, Option.map_some]
    refine congrArg some ?_
    cases e
    exact (Encoding.mk.injEq _ _ _ _ _ _).mpr ⟨ids, mask, typeIds⟩

theorem lossless_ofEncodings (nonempty : encodings ≠ []) (aligned : ∀ e ∈ encodings, e.Aligned) :
    Lossless encodings (ofEncodings encodings) where
  written := write?_eq_some aligned
  batchSize := rfl
  seqLen := max?_lengths nonempty
  ids := holdsRows_buffer fun _ _ => rfl
  mask := holdsRows_buffer fun e member => (aligned e member).mask
  typeIds := holdsRows_buffer fun e member => (aligned e member).typeIds
  recovered := unpadded_ofEncodings aligned

end Rows

end TokenBatch

/-- **Batches lose nothing.** Texts whose encodings are `encodings` are encoded as one batch that is
    written without a write outside of its buffers, has the numbers of each text in its own row with
    zeros behind them, and gives every encoding back. -/
theorem encode_lossless {encodings : List Encoding} (nonempty : encodings ≠ [])
    (aligned : ∀ e ∈ encodings, e.Aligned) :
    TokenBatch.Lossless encodings (.ofEncodings encodings) ∧
      ∀ {G T : Type} [TextEncoder T] (embedder : Embedder G T) (texts : List String),
        texts.mapM (TextEncoder.encode embedder.tokenizer embedder.limit) = .ok encodings →
          embedder.encode texts = .ok (.ofEncodings encodings) := by
  refine ⟨TokenBatch.lossless_ofEncodings nonempty aligned, ?_⟩
  intro G T _ embedder texts encoded
  rw [Embedder.encode, encoded]
  rfl

/-- Texts of two tokens, of none and of one. -/
theorem unevenTexts_lossless :
    TokenBatch.Lossless [⟨[1, 2], [1, 1], [0, 0]⟩, ⟨[], [], []⟩, ⟨[1], [1], [0]⟩]
        ⟨3, 2, [1, 2, 0, 0, 1, 0], [1, 1, 0, 0, 1, 0], [0, 0, 0, 0, 0, 0]⟩ ∧
      twoWords.encode ["hello world", "", "hello"] =
        .ok ⟨3, 2, [1, 2, 0, 0, 1, 0], [1, 1, 0, 0, 1, 0], [0, 0, 0, 0, 0, 0]⟩ := by
  have aligned : ∀ e ∈ ([⟨[1, 2], [1, 1], [0, 0]⟩, ⟨[], [], []⟩, ⟨[1], [1], [0]⟩] : List Encoding),
      e.Aligned := by
    intro e member
    simp only [List.mem_cons, List.not_mem_nil, or_false] at member
    rcases member with rfl | rfl | rfl <;> exact ⟨rfl, rfl⟩
  obtain ⟨lossless, encode⟩ := encode_lossless (List.cons_ne_nil _ _) aligned
  exact ⟨lossless, encode twoWords _ rfl⟩

end EmbeddingLatency.Onnx
