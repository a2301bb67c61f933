import EmbeddingLatency.Proofs.Comparison.GroupOrder
import EmbeddingLatency.Proofs.Report.ArrivalOrder

/-!
# The table of models

A model can have many rows: under several size labels, known ones and others, and with some of the
query sizes. The table of models shows one of them. Rows are gone through in their order and one is
kept when its model has not been met before, so the row that is kept is the least one of its model.
What has been met is carried along in `newOnes`; that nothing else is needed is `newOnes_eq`.
-/

set_option autoImplicit false

namespace EmbeddingLatency

section Distinct

variable {α β : Type} [DecidableEq β] {key : α → β} {items : List α}

/-- The items whose key has not been met. The key of an item that is kept is met from then on. -/
def newOnes (key : α → β) (met : List β) : List α → List α
  | [] => []
  | a :: rest =>
    if key a ∈ met then newOnes key met rest else a :: newOnes key (key a :: met) rest

/-- Going through items with what has been met leaves the distinct ones that have not. -/
theorem newOnes_eq (met : List β) :
    newOnes key met items = (distinctBy key items).filter fun a => key a ∉ met := by
  induction items generalizing met with
  | nil => rfl
  | cons a rest ih =>
    rw [newOnes, distinctBy]
    by_cases known : key a ∈ met
    · rw [if_pos known, ih, List.filter_cons_of_neg (by simpa using known)]
      refine (filter_filter_of_imp (fun b new => ?_) _).symm
      have new : key b ∉ met := of_decide_eq_true new
      exact decide_eq_true fun same => new (same ▸ known)
    · rw [if_neg known, ih, List.filter_cons_of_pos (by simpa using known), List.filter_filter]
      congr 1
      refine List.filter_congr fun b _ => ?_
      simp [Bool.and_comm]

/-- What is kept of a key stands in front of everything else that has it. -/
theorem first_of_mem_distinctBy {r : α → α → Prop} (ordered : items.Pairwise r) {first : α}
    (kept : first ∈ distinctBy key items) {other : α} (member : other ∈ items)
    (same : key other = key first) : other = first ∨ r first other := by
  induction items with
  | nil => cases member
  | cons a rest ih =>
    obtain ⟨before, ordered⟩ := List.pairwise_cons.mp ordered
    rw [distinctBy, List.mem_cons, List.mem_filter] at kept
    rcases kept with rfl | ⟨kept, new⟩
    · rcases List.mem_cons.mp member with rfl | later
      · exact .inl rfl
      · exact .inr (before other later)
    · have new : key first ≠ key a := of_decide_eq_true new
      rcases List.mem_cons.mp member with rfl | later
      · exact absurd same.symm new
      · exact ih ordered kept later

end Distinct

namespace Report

/-- The least row of each model, in the order of the rows. -/
structure LeastOfEach (rows kept : List (Comparison Float)) : Prop where
  sublist : kept.Sublist rows
  once : (kept.map (·.key.modelId)).Nodup
  covers : ∀ row ∈ rows, ∃ first ∈ kept, first.key.modelId = row.key.modelId
  least : ∀ first ∈ kept, ∀ row ∈ rows, row.key.modelId = first.key.modelId →
    row = first ∨ first.key.sortKey < row.key.sortKey

/-- Rows in strictly increasing order. -/
def InOrder (rows : List (Comparison Float)) : Prop :=
  rows.Pairwise fun a b => a.key.sortKey < b.key.sortKey

theorem inOrder_ofAll (timings : List LatencySeries) : InOrder (Comparison.ofAll timings) := by
  have increasing := Comparison.increasing_ofAll timings
  rwa [ComparisonKey.Increasing, List.pairwise_map] at increasing

section

variable {rows kept kept' : List (Comparison Float)}

theorem leastOfEach_distinctBy (ordered : InOrder rows) :
    LeastOfEach rows (distinctBy (·.key.modelId) rows) where
  sublist := distinctBy_sublist _ rows
  once := nodup_map_distinctBy _ rows
  covers := by
    intro row member
    exact List.mem_map.mp ((mem_map_distinctBy _ rows _).mpr (List.mem_map_of_mem member))
  least := fun _ kept _ member same => first_of_mem_distinctBy ordered kept member same

/-- The row of a model is the same in both lists, because each is not behind the other one. -/
theorem LeastOfEach.subset (least : LeastOfEach rows kept) (least' : LeastOfEach rows kept') :
    kept ⊆ kept' := by
  intro first member
  obtain ⟨first', member', same⟩ := least'.covers first (least.sublist.subset member)
  rcases least.least first member first' (least'.sublist.subset member') same with rfl | less
  · exact member'
  · rcases least'.least first' member' first (least.sublist.subset member) same.symm with
      rfl | less'
    · exact member'
    · exact absurd less' less.asymm

theorem LeastOfEach.unique (ordered : InOrder rows) (least : LeastOfEach rows kept)
    (least' : LeastOfEach rows kept') : kept = kept' := by
  refine List.Pairwise.eq_of_mem_iff (ordered.sublist least.sublist)
    (ordered.sublist least'.sublist) fun row => ?_
  exact ⟨fun member => least.subset least' member, fun member => least'.subset least member⟩

end

/-- The identities in the table of models depend on those of the rows only. -/
theorem keys_models (d : Dataset) :
    d.models.map (·.key) = distinctBy (·.modelId) (d.rows.map (·.key)) := by
  rw [Dataset.models]
  induction d.rows with
  | nil => rfl
  | cons row rest ih =>
    simp only [distinctBy, List.map_cons, ← ih, List.filter_map]
    rfl

/-- Which identities have a row does not depend on the order of the results. -/
theorem keys_ofAll_of_perm {timings timings' : List LatencySeries} (perm : timings.Perm timings') :
    (Comparison.ofAll timings).map (·.key) = (Comparison.ofAll timings').map (·.key) := by
  refine (Comparison.increasing_ofAll timings).eq_of_mem_iff (Comparison.increasing_ofAll timings')
    fun key => ?_
  rw [Comparison.mem_keys_ofAll_iff, Comparison.mem_keys_ofAll_iff]
  simp only [Comparison.Occurs, perm.mem_iff]

/-- **The table of models.** For any results, the table of models has the least row of each model
    that has rows, and no other list of rows is like that; a filter that remembers the models it has
    met finds it. In which order the results arrive does not matter: results that are rearranged
    give rows of the same identities, and the same rows when the last results stay the last ones. -/
theorem models_are_least_rows (run : Results) :
    (∀ kept, LeastOfEach (Dataset.ofResults run).rows kept ↔
      kept = (Dataset.ofResults run).models) ∧
      newOnes (·.key.modelId) [] (Dataset.ofResults run).rows = (Dataset.ofResults run).models ∧
      ∀ run' : Results,
        (run.timings.Perm run'.timings → (Dataset.ofResults run').models.map (·.key) =
          (Dataset.ofResults run).models.map (·.key)) ∧
        (SameLast run.timings run'.timings →
          (Dataset.ofResults run').models = (Dataset.ofResults run).models) := by
  have ordered : InOrder (Dataset.ofResults run).rows := inOrder_ofAll run.timings
  have least : LeastOfEach (Dataset.ofResults run).rows (Dataset.ofResults run).models :=
    leastOfEach_distinctBy ordered
  refine ⟨?_, ?_, ?_⟩
  · intro kept
    constructor
    · exact fun least' => least'.unique ordered least
    · rintro rfl
      exact least
  · rw [newOnes_eq]
    simp [Dataset.models]
  · intro run'
    constructor
    · intro perm
      rw [keys_models, keys_models]
      exact congrArg (distinctBy _) (keys_ofAll_of_perm perm).symm
    · intro last
      simp only [Dataset.models, Dataset.ofResults, Dataset.ofRows, last.ofAll_eq]

/-- A sample of a query to a model under a size label. -/
def oneSample (modelId sizeLabel : String) (query : QuerySize) : LatencySeries :=
  { LatencySeries.empty modelId sizeLabel query .cpu with samples := [1.0] }

/-- A model under a label without a place and two with one, with gaps in its query sizes, and
    another model under one label. -/
def scattered : List LatencySeries :=
  [oneSample "a" "other" .short, oneSample "b" "other" .long, oneSample "a" "large" .short,
    oneSample "a" "small" .long]

theorem keys_scattered : (Comparison.ofAll scattered).map (·.key) =
    [⟨"a", "small", .long⟩, ⟨"a", "large", .short⟩, ⟨"a", "other", .short⟩,
      ⟨"b", "other", .long⟩] := by
  refine (Comparison.increasing_ofAll scattered).eq_of_mem_iff ?_ fun key => ?_
  · simp [ComparisonKey.Increasing, ComparisonKey.sortKey, Prod.Lex.toLex_lt_toLex, sizePlace,
      sizePlaces, unlistedPlace, QuerySize.rank]
  · rw [Comparison.mem_keys_ofAll_iff]
    simp only [Comparison.Occurs, scattered, oneSample, LatencySeries.empty, LatencySeries.key,
      List.mem_cons, List.not_mem_nil, or_false, exists_eq_or_imp, exists_eq_left, true_and]
    grind

/-- Of the model with three labels the row of the smallest size is kept, in any order of arrival,
    although that row has the longest query. -/
theorem scattered_least_rows :
    scattered.Perm scattered.reverse ∧
      (Dataset.ofResults (plainRun scattered.reverse)).models.map (·.key) =
        [⟨"a", "small", .long⟩, ⟨"b", "other", .long⟩] := by
  have perm := (List.reverse_perm scattered).symm
  refine ⟨perm, ?_⟩
  rw [((models_are_least_rows (plainRun scattered)).2.2 (plainRun scattered.reverse)).1 perm,
    keys_models]
  change distinctBy _ ((Comparison.ofAll scattered).map (·.key)) = _
  rw [keys_scattered]
  decide

end Report

end EmbeddingLatency
