/-!
# Distinct items

The distinct items of a list in the order of their first occurrence, with or without a key that
tells items apart.
-/

set_option autoImplicit false

namespace EmbeddingLatency

variable {α β : Type} [DecidableEq β]

/-- The items whose key has not occurred before. -/
def distinctBy (key : α → β) : List α → List α
  | [] => []
  | a :: rest => a :: (distinctBy key rest).filter (fun b => key b ≠ key a)

/-- The items that have not occurred before. -/
def distinct (items : List β) : List β := distinctBy id items

theorem distinctBy_sublist (key : α → β) (items : List α) :
    (distinctBy key items).Sublist items := by
  induction items with
  | nil => exact .slnil
  | cons a rest ih => exact (List.filter_sublist.trans ih).cons_cons a

/-- The keys that are left are those that occur. -/
theorem mem_map_distinctBy (key : α → β) (items : List α) (b : β) :
    b ∈ (distinctBy key items).map key ↔ b ∈ items.map key := by
  induction items with
  | nil => simp [distinctBy]
  | cons a rest ih =>
    by_cases h : b = key a
    · simp [distinctBy, h]
    · simp only [List.mem_map] at ih
      simp only [distinctBy, List.map_cons, List.mem_cons, h, false_or, List.mem_map,
        List.mem_filter, decide_eq_true_eq]
      constructor
      · rintro ⟨x, ⟨hx, _⟩, rfl⟩
        exact ih.1 ⟨x, hx, rfl⟩
      · intro hb
        obtain ⟨x, hx, rfl⟩ := ih.2 hb
        exact ⟨x, ⟨hx, h⟩, rfl⟩

/-- No key is left twice. -/
theorem nodup_map_distinctBy (key : α → β) (items : List α) :
    ((distinctBy key items).map key).Nodup := by
  induction items with
  | nil => simp [distinctBy]
  | cons a rest ih =>
    simp only [distinctBy, List.map_cons, List.nodup_cons, List.mem_map, List.mem_filter,
      decide_eq_true_eq, not_exists, not_and, and_imp]
    exact ⟨fun x _ h => h, ih.sublist (List.filter_sublist.map key)⟩

@[simp] theorem mem_distinct (items : List β) (b : β) : b ∈ distinct items ↔ b ∈ items := by
  simpa [distinct] using mem_map_distinctBy id items b

theorem nodup_distinct (items : List β) : (distinct items).Nodup := by
  simpa [distinct] using nodup_map_distinctBy id items

end EmbeddingLatency
