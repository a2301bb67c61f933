/-!
# Batches

A list cut into batches of one size; the last batch holds what is left.
-/

set_option autoImplicit false

namespace EmbeddingLatency

/-- The batches of a list; without a size there are none. -/
def batches {α : Type} (size : Nat) (items : List α) : List (List α) :=
  match items with
  | [] => []
  | item :: rest =>
    if size = 0 then []
    else (item :: rest).take size :: batches size ((item :: rest).drop size)
termination_by items.length
decreasing_by simp; omega

/-- The number of batches that hold `count` items. -/
def batchCount (size count : Nat) : Nat := (count + size - 1) / size

/-- Nothing is lost, doubled or moved. -/
theorem flatten_batches {α : Type} {size : Nat} (h : 0 < size) (items : List α) :
    (batches size items).flatten = items := by
  fun_induction batches size items with
  | case1 => rfl
  | case2 => simp_all
  | case3 a rest _ ih => simp [ih]

/-- Each batch but the last is as long as all others, so its place tells where it begins. -/
theorem getElem?_batches {α : Type} {size : Nat} (h : 0 < size) (items : List α) (i : Nat) :
    (batches size items)[i]? =
      if i * size < items.length then some ((items.drop (i * size)).take size) else none := by
  induction i generalizing items with
  | zero => cases items <;> simp [batches, Nat.ne_of_gt h]
  | succ i ih =>
    cases items with
    | nil => simp [batches]
    | cons item rest =>
      have place : (i + 1) * size = size + i * size := by rw [Nat.succ_mul, Nat.add_comm]
      rw [batches, if_neg (Nat.ne_of_gt h), List.getElem?_cons_succ, ih, List.length_drop,
        List.drop_drop, place]
      simp only [Nat.lt_sub_iff_add_lt']

/-- There is a batch for each place at which one can begin. -/
theorem lt_length_batches_iff {α : Type} {size : Nat} (h : 0 < size) (items : List α) (i : Nat) :
    i < (batches size items).length ↔ i * size < items.length := by
  have place := getElem?_batches h items i
  constructor
  · intro within
    refine Decidable.byContradiction fun beyond => ?_
    rw [if_neg beyond, List.getElem?_eq_getElem within] at place
    cases place
  · intro begins
    rw [if_pos begins] at place
    exact (List.getElem?_eq_some_iff.mp place).1

/-- The number of batches is the one that is told before they are cut. -/
theorem length_batches {α : Type} {size : Nat} (h : 0 < size) (items : List α) :
    (batches size items).length = batchCount size items.length := by
  have places : ∀ i, i < (batches size items).length ↔ i < batchCount size items.length := by
    intro i
    rw [lt_length_batches_iff h, batchCount, Nat.lt_div_iff_mul_lt h]
    omega
  have below := places (batches size items).length
  have above := places (batchCount size items.length)
  omega

/-- Batches that are put together are cut apart again. -/
theorem batches_flatten {α : Type} {size : Nat} (h : 0 < size) {rows : List (List α)}
    (full : ∀ row ∈ rows, row.length = size) : batches size rows.flatten = rows := by
  induction rows with
  | nil => simp [batches]
  | cons row rows ih =>
    have long : row.length = size := full row List.mem_cons_self
    cases row with
    | nil => simp at long; omega
    | cons item rest =>
      rw [List.flatten_cons, List.cons_append, batches, if_neg (Nat.ne_of_gt h), ← List.cons_append,
        List.take_left' long, List.drop_left' long,
        ih fun row member => full row (List.mem_cons_of_mem _ member)]

/-- The items that stand in the batch at a place, if all batches in front of it are full. -/
def batchAt {α : Type} (size : Nat) (items : List α) (i : Nat) : List α :=
  (items.drop (i * size)).take size

/-- Items that fill some batches are cut into these. -/
theorem batches_of_full {α : Type} {size count : Nat} (h : 0 < size) {items : List α}
    (full : items.length = count * size) :
    batches size items = (List.range count).map (batchAt size items) := by
  refine List.ext_getElem? fun i => ?_
  rw [getElem?_batches h, List.getElem?_map, full]
  by_cases inside : i < count
  · rw [if_pos (Nat.mul_lt_mul_of_pos_right inside h), List.getElem?_range inside]
    rfl
  · have outside : ¬ i * size < count * size := fun less => inside (Nat.lt_of_mul_lt_mul_right less)
    rw [if_neg outside, List.getElem?_eq_none (by rw [List.length_range]; omega)]
    rfl

/-- The place of an item in its batch and that of the batch tell its place in the whole. -/
theorem getElem?_batchAt {α : Type} {size i j : Nat} (inside : j < size) (items : List α) :
    (batchAt size items i)[j]? = items[i * size + j]? := by
  rw [batchAt, List.getElem?_take_of_lt inside, List.getElem?_drop]

/-- The batches of rows that are put together are the rows. -/
theorem batchAt_flatten {α : Type} {size : Nat} (h : 0 < size) {rows : List (List α)}
    (full : ∀ row ∈ rows, row.length = size) {i : Nat} {row : List α}
    (found : rows[i]? = some row) :
    batchAt size rows.flatten i = row := by
  have cut := getElem?_batches h rows.flatten i
  rw [batches_flatten h full, found] at cut
  split at cut
  · exact (Option.some.inj cut).symm
  · simp at cut

theorem length_batchAt {α : Type} {size count : Nat} {items : List α}
    (full : items.length = count * size) {i : Nat} (inside : i < count) :
    (batchAt size items i).length = size := by
  have room : (i + 1) * size ≤ count * size := Nat.mul_le_mul_right _ inside
  rw [Nat.succ_mul] at room
  rw [batchAt, List.length_take, List.length_drop, full]
  omega

end EmbeddingLatency
