import EmbeddingLatency.Proofs.Decimal.FixedPlaces
import EmbeddingLatency.Report.Cells
import EmbeddingLatency.Report.Csv

/-!
# The columns of a report

The figures of a device stand in columns of their own in every report, under names that differ from
format to format (`Figure.column`, `Figure.title`). A cell is found under the header of its column.

What stands in a cell tells whether there is a value: numbers are never written as the empty text,
nor as one of the two marks for values that are missing.
-/

set_option autoImplicit false

namespace EmbeddingLatency.Report

open EmbeddingLatency.Decimal (digits digits_ne fixed not_mem_fixed)

/-- The figures that every report shows of a device. -/
inductive Figure where
  | mean
  | p50
  | p95
  deriving DecidableEq, Repr

namespace Figure

/-- The value of a figure. -/
def of : Figure → GroupFigures Float → Float
  | .mean, s => s.mean
  | .p50, s => s.p50
  | .p95, s => s.p95

/-- The column of a figure in data files. -/
def column (device : String) : Figure → String
  | .mean => device ++ "_mean_ms"
  | .p50 => device ++ "_p50_ms"
  | .p95 => device ++ "_p95_ms"

/-- The column of a figure in tables for readers. -/
def title (device : String) : Figure → String
  | .mean => device ++ " Mean"
  | .p50 => device ++ " P50"
  | .p95 => device ++ " P95"

end Figure

/-- The cell under a header. -/
def cellUnder (header : String) (headers cells : List String) : Option String :=
  (headers.zip cells).lookup header

section Texts

theorem fixed_ne_missing (places : Nat) (x : Float) : fixed places x ≠ "N/A" := by
  intro same
  have member : '/' ∈ (fixed places x).toList := by rw [same]; decide
  exact not_mem_fixed (by decide) (by decide) places x member

/-- A text with a unit behind it is not a text that ends differently. -/
theorem append_ne {text unit other : String}
    (last : unit.toList.getLast? ≠ other.toList.getLast?) (filled : unit.toList ≠ []) :
    text ++ unit ≠ other := by
  rintro rfl
  rw [String.toList_append, List.getLast?_append] at last
  obtain ⟨c, found⟩ := Option.ne_none_iff_exists'.mp (mt List.getLast?_eq_none_iff.mp filled)
  simp [found] at last

theorem paramsText_ne_unknown (n : Nat) : paramsText n ≠ "?" := by
  unfold paramsText
  split
  case isTrue => exact append_ne (by decide) (by decide)
  case isFalse => exact append_ne (by decide) (by decide)

end Texts

section Cells

variable {α : Type}

/-- An option is written by its mark exactly if there is no value. -/
theorem getD_eq_iff {write : α → String} {mark : String} (apart : ∀ a, write a ≠ mark)
    (value : Option α) : (value.map write).getD mark = mark ↔ value = none := by
  cases value with
  | none => simp
  | some a => simp [apart a]

theorem optionalField_eq_empty_iff {write : α → String} (filled : ∀ a, write a ≠ "")
    (value : Option α) : optionalField write value = "" ↔ value = none :=
  getD_eq_iff filled value

theorem msOrMissing_eq_iff (ms : Option Float) : msOrMissing ms = "N/A" ↔ ms = none :=
  getD_eq_iff (fixed_ne_missing 2) ms

theorem speedupOrMissing_eq_iff (ratio : Option Float) :
    speedupOrMissing ratio = "N/A" ↔ ratio = none :=
  getD_eq_iff (fun _ => append_ne (by decide) (by decide)) ratio

theorem countOrUnknown_eq_iff (n : Option Nat) : countOrUnknown n = "?" ↔ n = none :=
  getD_eq_iff (fun n => digits_ne n (by simp)) n

theorem orQuestionMark_paramsText_eq_iff (row : Comparison Float) :
    orQuestionMark row.paramsText = "?" ↔ row.numParameters = none :=
  getD_eq_iff paramsText_ne_unknown row.numParameters

end Cells

end EmbeddingLatency.Report
