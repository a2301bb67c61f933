import EmbeddingLatency.Comparison
import Mathlib.Data.List.Sort
import Mathlib.Data.Prod.Lex
import Mathlib.Data.String.Basic

/-!
# The order of comparison rows

Rows are compared by four things, one after the other. Put together they are a place in a linear
order, and no two identities have the same place. So a list of identities that increases strictly
has each of them once, and a set of identities has one such list only.
-/

set_option autoImplicit false

namespace EmbeddingLatency

theorem sizePlace_of_unknown {label : String} (unknown : isKnownSize label = false) :
    sizePlace label = unlistedPlace := by
  have missing : sizePlaces.find? (·.1 = label) = none := by
    rw [List.find?_eq_none]
    intro place member
    simp only [isKnownSize, List.any_eq_false] at unknown
    simpa using unknown place member
  rw [sizePlace, missing]

/-- A label that the table of places does not know stands behind every label that it does. -/
theorem sizePlace_known_lt_unknown {known unknown : String} (listed : isKnownSize known = true)
    (unlisted : isKnownSize unknown = false) : sizePlace known < sizePlace unknown := by
  rw [sizePlace_of_unknown unlisted]
  exact sizePlace_lt_of_known listed

namespace ComparisonKey

/-- What rows are compared by: the places of the size label and of the query size, then the size
    label and the model. -/
def sortKey (key : ComparisonKey) : Nat ×ₗ Nat ×ₗ String ×ₗ String :=
  toLex (sizePlace key.sizeLabel,
    toLex (key.query.rank, toLex (key.sizeLabel, key.modelId)))

theorem sortKey_injective : Function.Injective sortKey := by
  rintro ⟨modelId, sizeLabel, query⟩ ⟨modelId', sizeLabel', query'⟩ same
  simp only [sortKey, EmbeddingLike.apply_eq_iff_eq, Prod.mk.injEq] at same
  obtain ⟨_, ranks, rfl, rfl⟩ := same
  rw [QuerySize.rank_injective ranks]

theorem le_iff (a b : ComparisonKey) : a.le b = true ↔ a.sortKey ≤ b.sortKey := by
  unfold le sortKey
  simp only [Prod.Lex.toLex_le_toLex]
  split_ifs with size query label
  · simp [size]
  · simp_all
  · simp_all
  · simp_all

/-- Identities in strictly increasing order. -/
def Increasing (keys : List ComparisonKey) : Prop := keys.Pairwise fun a b => a.sortKey < b.sortKey

theorem Increasing.nodup {keys : List ComparisonKey} (increasing : Increasing keys) : keys.Nodup :=
  increasing.imp fun less same => absurd (congrArg sortKey same) (ne_of_lt less)

/-- A set of identities has one increasing list. -/
theorem Increasing.eq_of_mem_iff {keys keys' : List ComparisonKey} (increasing : Increasing keys)
    (increasing' : Increasing keys') (same : ∀ key, key ∈ keys ↔ key ∈ keys') : keys = keys' := by
  apply sortKey_injective.list_map
  refine List.SortedLT.eq_of_mem_iff ?_ ?_ ?_
  · rw [List.sortedLT_iff_pairwise, List.pairwise_map]
    exact increasing
  · rw [List.sortedLT_iff_pairwise, List.pairwise_map]
    exact increasing'
  · intro place
    simp only [List.mem_map, same]

end ComparisonKey

end EmbeddingLatency
