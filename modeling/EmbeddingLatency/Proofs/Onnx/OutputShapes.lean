import EmbeddingLatency.Decimal.Numeral
import EmbeddingLatency.Proofs.Onnx.UnmaskedTokens
import Mathlib.Tactic.Common

/-!
# Shapes of outputs

The axes of an output come from the graph, and the buffer may be of any length. `PoolRun` lists all
that pooling can do: two axes, three axes or a refusal that names the axes, each with what has been
checked on the way. What is accepted, how many vectors there are and which part of the buffer each
depends on is read off it.

`pool?` is pooling once more, in a form that can break off: lengths are multiplied in machine words,
buffers are cut without a rest, and no buffer can be cut into parts of no length. What has been
checked keeps it from breaking off.
-/

set_option autoImplicit false

namespace EmbeddingLatency.Onnx

open EmbeddingLatency.Decimal (maxWord)

/-- The axes fit the batch, and so does the number of items. -/
def Fits (batchSize seqLen items : Nat) (dims : List Int) : Prop :=
  match dims with
  | [_, width] => 0 < width ∧ (items : Int) = batchSize * width
  | [_, tokens, width] =>
    0 < width ∧ 0 < tokens ∧ tokens = seqLen ∧ (items : Int) = batchSize * seqLen * width
  | _ => False

/-- The numbers of items that are compared with the buffer can be counted in a machine word. -/
def SizesFit (batchSize seqLen : Nat) (dims : List Int) : Prop :=
  match dims with
  | [_, width] => batchSize * width.toNat ≤ maxWord
  | [_, tokens, width] =>
    tokens = seqLen →
      seqLen * width.toNat ≤ maxWord ∧ batchSize * (seqLen * width.toNat) ≤ maxWord
  | _ => True

section Guarded

variable {α : Type} {size count : Nat} {items : List α}

/-- A product that has to fit in a machine word. -/
def product? (a b : Nat) : Option Nat := if a * b ≤ maxWord then some (a * b) else none

/-- The full batches of a list, without what is left over. A list is not cut into batches
    of no length. -/
def fullBatches? (size : Nat) (items : List α) : Option (List (List α)) :=
  if size = 0 then none else some ((batches size items).filter fun batch => batch.length = size)

/-- Where the items fill their batches, nothing is left over. -/
theorem fullBatches?_eq (h : 0 < size) (full : items.length = count * size) :
    fullBatches? size items = some (batches size items) := by
  rw [fullBatches?, if_neg h.ne', List.filter_eq_self.mpr]
  intro batch member
  rw [batches_of_full h full] at member
  obtain ⟨i, inside, rfl⟩ := List.mem_map.mp member
  exact decide_eq_true (length_batchAt full (List.mem_range.mp inside))

/-- Pooling the tokens of a text, unless their rows cannot be cut. -/
def pooled? (kind : VectorKind) (width : Nat) (part : List Float32) (bits : List Int) :
    Option Embedding := do
  let rows ← fullBatches? width part
  return pooled kind width (keptRows rows bits)

theorem mapM_pooled? (kind : VectorKind) {width : Nat} (wide : 0 < width)
    {parts : List (List Float32 × List Int)}
    (full : ∀ p ∈ parts, ∃ count, p.1.length = count * width) :
    (parts.mapM fun p => pooled? kind width p.1 p.2) =
      some (parts.map fun p => pooled kind width (keptRows (batches width p.1) p.2)) := by
  induction parts with
  | nil => rfl
  | cons p parts ih =>
    obtain ⟨count, cut⟩ := full p List.mem_cons_self
    have first : pooled? kind width p.1 p.2 =
        some (pooled kind width (keptRows (batches width p.1) p.2)) := by
      rw [pooled?, fullBatches?_eq wide cut]
      rfl
    rw [List.mapM_cons, first, ih fun p member => full p (List.mem_cons_of_mem _ member)]
    rfl

/-- Pooling with all the products and cuts that may fail. -/
def pool? (kind : VectorKind) (batchSize seqLen : Nat) (mask : List Int) (dims : List Int)
    (flat : List Float32) : Option (Except Fault (List Embedding)) :=
  match dims.length with
  | 2 =>
    match axisLength dims 1 with
    | .error fault => some (.error fault)
    | .ok width => do
      let count ← product? batchSize width
      if flat.length ≠ count then return .error (countFault dims)
      let parts ← fullBatches? width flat
      return .ok (parts.map (finished kind))
  | 3 =>
    match axisLength dims 2, axisLength dims 1 with
    | .error fault, _ => some (.error fault)
    | .ok _, .error fault => some (.error fault)
    | .ok width, .ok tokens => do
      if tokens ≠ seqLen then
        return .error (shapeFault dims ": sequence axis does not match input")
      let row ← product? seqLen width
      let count ← product? batchSize row
      if flat.length ≠ count then return .error (countFault dims)
      let parts ← fullBatches? row flat
      let masks ← fullBatches? seqLen mask
      let vectors ← (parts.zip masks).mapM fun p => pooled? kind width p.1 p.2
      return .ok vectors
  | _ => some (.error (shapeFault dims ": expected rank 2 or 3"))

end Guarded

section

variable (kind : VectorKind) (batchSize seqLen : Nat) (mask : List Int) (flat : List Float32)

/-- All that pooling can do with some axes. -/
inductive PoolRun : List Int → Except Fault (List Embedding) → Prop where
  | vectors {first : Int} {width : Nat} (wide : 0 < width)
      (items : flat.length = batchSize * width) :
      PoolRun [first, width]
        (.ok ((List.range batchSize).map fun i => finished kind (batchAt width flat i)))
  | tokens {first : Int} {width : Nat} (wide : 0 < width) (long : 0 < seqLen)
      (items : flat.length = batchSize * (seqLen * width)) :
      PoolRun [first, seqLen, width]
        (.ok ((List.range batchSize).map fun i =>
          pooled kind width
            (keptRows (batches width (batchAt (seqLen * width) flat i)) (batchAt seqLen mask i))))
  | refused {dims : List Int} (detail : String)
      (unfit : ¬ Fits batchSize seqLen flat.length dims) :
      PoolRun dims (.error (shapeFault dims detail))

end

section

variable {kind : VectorKind} {batchSize seqLen : Nat} {mask : List Int} {flat : List Float32}

/-- What pooling does with some axes, and that it does not break off. -/
structure PoolsSafely (kind : VectorKind) (batchSize seqLen : Nat) (mask : List Int)
    (flat : List Float32) (dims : List Int) : Prop where
  run : PoolRun kind batchSize seqLen mask flat dims (pool kind batchSize seqLen mask dims flat)
  guarded : pool? kind batchSize seqLen mask dims flat =
    some (pool kind batchSize seqLen mask dims flat)

/-- Pooling does something known, and does so with guards, too. -/
theorem PoolsSafely.of_eq {dims : List Int} {answer : Except Fault (List Embedding)}
    (run : PoolRun kind batchSize seqLen mask flat dims answer)
    (plain : pool kind batchSize seqLen mask dims flat = answer)
    (guarded : pool? kind batchSize seqLen mask dims flat = some answer) :
    PoolsSafely kind batchSize seqLen mask flat dims :=
  ⟨by rw [plain]; exact run, by rw [guarded, plain]⟩

/-- Two axes: the second one is the width of the vectors. -/
theorem poolsSafely_two (first second : Int) (small : SizesFit batchSize seqLen [first, second]) :
    PoolsSafely kind batchSize seqLen mask flat [first, second] := by
  by_cases wide : 0 < second
  case neg =>
    have axis : axisLength [first, second] 1 = .error (shapeFault [first, second] "") :=
      axisLength_of_not_pos rfl wide
    exact .of_eq (.refused "" fun fits => wide fits.1) (by simp [pool, axis, bind, Except.bind])
      (by simp [pool?, axis])
  obtain ⟨width, rfl⟩ := Int.eq_ofNat_of_zero_le wide.le
  have wide : 0 < width := by simpa using wide
  have axis : axisLength [first, (width : Int)] 1 = .ok width := axisLength_of_pos rfl wide
  have product : product? batchSize width = some (batchSize * width) := if_pos small
  by_cases items : flat.length = batchSize * width
  case neg =>
    have unfit : ¬ Fits batchSize seqLen flat.length [first, width] := fun fits =>
      items (by exact_mod_cast fits.2)
    exact .of_eq (.refused ": element count does not match batch" unfit)
      (by simp [pool, axis, items, countFault, bind, Except.bind])
      (by simp [pool?, axis, product, items, countFault])
  have cut := batches_of_full wide items
  exact .of_eq (.vectors wide items) (by simp [pool, axis, items, cut, bind, Except.bind])
    (by simp [pool?, axis, product, items, fullBatches?_eq wide items, cut])

/-- Three axes of which the second one counts the tokens of the batch. -/
theorem poolsSafely_tokens (bits : mask.length = batchSize * seqLen) (first : Int) {width : Nat}
    (wide : 0 < width) (long : 0 < seqLen)
    (small : SizesFit batchSize seqLen [first, seqLen, width]) :
    PoolsSafely kind batchSize seqLen mask flat [first, seqLen, width] := by
  have widthAxis : axisLength [first, (seqLen : Int), (width : Int)] 2 = .ok width :=
    axisLength_of_pos rfl wide
  have tokenAxis : axisLength [first, (seqLen : Int), (width : Int)] 1 = .ok seqLen :=
    axisLength_of_pos rfl long
  obtain ⟨rowFits, countFits⟩ := small rfl
  have row : product? seqLen width = some (seqLen * width) := if_pos rowFits
  have product : product? batchSize (seqLen * width) = some (batchSize * (seqLen * width)) :=
    if_pos countFits
  by_cases items : flat.length = batchSize * (seqLen * width)
  case neg =>
    have unfit : ¬ Fits batchSize seqLen flat.length [first, seqLen, width] := fun fits =>
      items (by rw [← Nat.mul_assoc]; exact_mod_cast fits.2.2.2)
    exact .of_eq (.refused ": element count does not match batch" unfit)
      (by simp [pool, widthAxis, tokenAxis, items, countFault, bind, Except.bind])
      (by simp [pool?, widthAxis, tokenAxis, row, product, items, countFault])
  have positive := Nat.mul_pos long wide
  have parts := batches_of_full positive items
  have masks := batches_of_full long bits
  have full : ∀ p ∈ (batches (seqLen * width) flat).zip (batches seqLen mask),
      ∃ count, p.1.length = count * width := by
    intro p member
    have part := (List.of_mem_zip member).1
    rw [parts] at part
    obtain ⟨i, inside, same⟩ := List.mem_map.mp part
    exact ⟨seqLen, by rw [← same, length_batchAt items (List.mem_range.mp inside)]⟩
  have guarded : pool? kind batchSize seqLen mask [first, seqLen, width] flat =
      some (.ok (((batches (seqLen * width) flat).zip (batches seqLen mask)).map fun p =>
        pooled kind width (keptRows (batches width p.1) p.2))) := by
    simp [pool?, widthAxis, tokenAxis, row, product, items, fullBatches?_eq positive items,
      fullBatches?_eq long bits, mapM_pooled? kind wide full]
  refine .of_eq (.tokens wide long items) (pool_texts kind long wide bits items) ?_
  rw [guarded, parts, masks, List.zip_map', List.map_map]
  rfl

/-- Three axes: the second one has to count the tokens, the third one is the width of their rows. -/
theorem poolsSafely_three (bits : mask.length = batchSize * seqLen) (first second third : Int)
    (small : SizesFit batchSize seqLen [first, second, third]) :
    PoolsSafely kind batchSize seqLen mask flat [first, second, third] := by
  by_cases wide : 0 < third
  case neg =>
    have axis : axisLength [first, second, third] 2 =
        .error (shapeFault [first, second, third] "") := axisLength_of_not_pos rfl wide
    exact .of_eq (.refused "" fun fits => wide fits.1) (by simp [pool, axis, bind, Except.bind])
      (by simp [pool?, axis])
  obtain ⟨width, rfl⟩ := Int.eq_ofNat_of_zero_le wide.le
  have wide : 0 < width := by simpa using wide
  have widthAxis : axisLength [first, second, (width : Int)] 2 = .ok width :=
    axisLength_of_pos rfl wide
  by_cases long : 0 < second
  case neg =>
    have axis : axisLength [first, second, (width : Int)] 1 =
        .error (shapeFault [first, second, width] "") := axisLength_of_not_pos rfl long
    exact .of_eq (.refused "" fun fits => long fits.2.1)
      (by simp [pool, widthAxis, axis, bind, Except.bind]) (by simp [pool?, widthAxis, axis])
  obtain ⟨tokens, rfl⟩ := Int.eq_ofNat_of_zero_le long.le
  have long : 0 < tokens := by simpa using long
  have tokenAxis : axisLength [first, (tokens : Int), (width : Int)] 1 = .ok tokens :=
    axisLength_of_pos rfl long
  by_cases same : tokens = seqLen
  case neg =>
    have unfit : ¬ Fits batchSize seqLen flat.length [first, tokens, width] := fun fits =>
      same (by exact_mod_cast fits.2.2.1)
    exact .of_eq (.refused ": sequence axis does not match input" unfit)
      (by simp [pool, widthAxis, tokenAxis, same, bind, Except.bind])
      (by simp [pool?, widthAxis, tokenAxis, same])
  subst same
  exact poolsSafely_tokens bits first wide long small

theorem poolsSafely (bits : mask.length = batchSize * seqLen) (dims : List Int)
    (small : SizesFit batchSize seqLen dims) :
    PoolsSafely kind batchSize seqLen mask flat dims := by
  rcases dims with - | ⟨first, - | ⟨second, - | ⟨third, - | ⟨fourth, others⟩⟩⟩⟩
  · exact .of_eq (.refused ": expected rank 2 or 3" id) rfl rfl
  · exact .of_eq (.refused ": expected rank 2 or 3" id) rfl rfl
  · exact poolsSafely_two first second small
  · exact poolsSafely_three bits first second third small
  · exact .of_eq (.refused ": expected rank 2 or 3" id) rfl rfl

/-- What a text is pooled from: the number of items that the output has for each text. -/
def itemsPerText (seqLen : Nat) (dims : List Int) : Nat :=
  match dims with
  | [_, width] => width.toNat
  | [_, _, width] => seqLen * width.toNat
  | _ => 0

/-- The vector of a text from its part of the output and its part of the mask, given the axes. -/
def vectorOf (kind : VectorKind) (dims : List Int) (part : List Float32) (bits : List Int) :
    Embedding :=
  match dims with
  | [_, _] => finished kind part
  | [_, _, width] => pooled kind width.toNat (keptRows (batches width.toNat part) bits)
  | _ => []

theorem PoolRun.fits {dims : List Int} {vectors : List Embedding}
    (run : PoolRun kind batchSize seqLen mask flat dims (.ok vectors)) :
    Fits batchSize seqLen flat.length dims := by
  cases run with
  | vectors wide items => exact ⟨by exact_mod_cast wide, by exact_mod_cast items⟩
  | tokens wide long items =>
    rw [← Nat.mul_assoc] at items
    exact ⟨by exact_mod_cast wide, by exact_mod_cast long, rfl, by exact_mod_cast items⟩

theorem PoolRun.refusal {dims : List Int} {fault : Fault}
    (run : PoolRun kind batchSize seqLen mask flat dims (.error fault)) :
    ¬ Fits batchSize seqLen flat.length dims ∧ ∃ detail, fault = shapeFault dims detail := by
  cases run with
  | refused detail unfit => exact ⟨unfit, detail, rfl⟩

theorem PoolRun.parts {dims : List Int} {vectors : List Embedding}
    (run : PoolRun kind batchSize seqLen mask flat dims (.ok vectors)) :
    vectors = (List.range batchSize).map fun i =>
      vectorOf kind dims (batchAt (itemsPerText seqLen dims) flat i) (batchAt seqLen mask i) := by
  cases run with
  | vectors wide items => rfl
  | tokens wide long items => rfl

theorem PoolRun.widths {dims : List Int} {vectors : List Embedding}
    (bits : mask.length = batchSize * seqLen)
    (run : PoolRun kind batchSize seqLen mask flat dims (.ok vectors)) :
    ∀ v ∈ vectors, dims.getLast? = some (v.length : Int) := by
  intro v member
  cases run with
  | vectors wide items =>
    obtain ⟨i, inside, rfl⟩ := List.mem_map.mp member
    rw [length_finished, length_batchAt items (List.mem_range.mp inside)]
    rfl
  | @tokens _ width wide long items =>
    obtain ⟨i, inside, rfl⟩ := List.mem_map.mp member
    have inside := List.mem_range.mp inside
    let text : MaskedRows Float32 seqLen width :=
      ⟨batchAt seqLen mask i, batchAt (seqLen * width) flat i, length_batchAt bits inside,
        length_batchAt items inside⟩
    have kept := MaskedRows.keptRows_eq wide text
    rw [kept, length_pooled kind fun row => MaskedRows.length_of_mem_unmasked]
    rfl

/-- What there is to say about pooling an output of any shape. -/
structure Validated (kind : VectorKind) (batchSize seqLen : Nat) (mask : List Int) (dims : List Int)
    (flat : List Float32) : Prop where
  /-- No cut and no product fails. -/
  guarded : pool? kind batchSize seqLen mask dims flat =
    some (pool kind batchSize seqLen mask dims flat)
  accepted : (∃ vectors, pool kind batchSize seqLen mask dims flat = .ok vectors) ↔
    Fits batchSize seqLen flat.length dims
  refused : ∀ fault, pool kind batchSize seqLen mask dims flat = .error fault →
    ∃ detail, fault = shapeFault dims detail
  count : ∀ vectors, pool kind batchSize seqLen mask dims flat = .ok vectors →
    vectors.length = batchSize
  widths : ∀ vectors, pool kind batchSize seqLen mask dims flat = .ok vectors →
    ∀ v ∈ vectors, dims.getLast? = some (v.length : Int)
  /-- Each vector is made of the part of the output and of the mask that belong to its text. -/
  parts : ∀ vectors, pool kind batchSize seqLen mask dims flat = .ok vectors →
    ∀ i < batchSize, vectors[i]? =
      some (vectorOf kind dims (batchAt (itemsPerText seqLen dims) flat i) (batchAt seqLen mask i))

/-- **Outputs are validated.** An output whose axes and number of items fit the batch is pooled to
    one vector for each text, any other is refused, and no check comes too late: whatever the axes
    and the buffer, pooling does not break off. -/
theorem pooling_validates_output (kind : VectorKind) {batchSize seqLen : Nat} {mask : List Int}
    (bits : mask.length = batchSize * seqLen) (dims : List Int) (flat : List Float32)
    (small : SizesFit batchSize seqLen dims) : Validated kind batchSize seqLen mask dims flat := by
  obtain ⟨run, guarded⟩ : PoolsSafely kind batchSize seqLen mask flat dims :=
    poolsSafely bits dims small
  refine
    { guarded
      accepted := ⟨?fits, ?answers⟩
      refused := ?refused
      count := ?count
      widths := ?widths
      parts := ?parts }
  case fits =>
    rintro ⟨vectors, answer⟩
    rw [answer] at run
    exact run.fits
  case answers =>
    intro fits
    cases answer : pool kind batchSize seqLen mask dims flat with
    | ok vectors => exact ⟨vectors, rfl⟩
    | error fault =>
      rw [answer] at run
      exact absurd fits run.refusal.1
  case refused =>
    intro fault answer
    rw [answer] at run
    exact run.refusal.2
  case count =>
    intro vectors answer
    rw [answer] at run
    rw [run.parts, List.length_map, List.length_range]
  case widths =>
    intro vectors answer
    rw [answer] at run
    exact run.widths bits
  case parts =>
    intro vectors answer i inside
    rw [answer] at run
    rw [run.parts, List.getElem?_map, List.getElem?_range inside]
    rfl

/-- A sparse output of two texts with two places each, of which one is padding. -/
theorem sparsePair_validated :
    Validated .sparse 2 2 [1, 0, 1, 1] [2, 2, 1] [0.5, 8.0, -1.0, 2.0] :=
  pooling_validates_output .sparse rfl [2, 2, 1] [0.5, 8.0, -1.0, 2.0] fun _ => by decide

end

end EmbeddingLatency.Onnx
