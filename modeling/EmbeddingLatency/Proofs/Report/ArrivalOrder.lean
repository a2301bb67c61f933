import EmbeddingLatency.Proofs.Comparison.Table
import EmbeddingLatency.Report.Console
import EmbeddingLatency.Report.Csv
import EmbeddingLatency.Report.Json
import EmbeddingLatency.Report.Markdown

/-!
# Reports and the order of arrival

Results arrive in an order of their own, and an identity may be timed more than once. A report shows
nothing of that: it depends on the context of the run and on the last result of each identity on
each device. In particular results of different identities may change places.
-/

set_option autoImplicit false

namespace EmbeddingLatency

open Comparison (IsLast Occurs IsTable)

/-- The last result of every identity on every device is the same in both lists. -/
def SameLast (results results' : List LatencySeries) : Prop :=
  ∀ device key r, IsLast results device key r ↔ IsLast results' device key r

/-- Both lists hold the same results, and those of one identity on one device in the same order. -/
structure Reordered (results results' : List LatencySeries) : Prop where
  perm : results.Perm results'
  inOrder : ∀ device key,
    (results.filter fun r => r.device = device && r.key = key) =
      results'.filter fun r => r.device = device && r.key = key

theorem sameLast_of_getLast? {results results' : List LatencySeries}
    (same : ∀ device key,
      (results.filter fun r => r.device = device && r.key = key).getLast? =
        (results'.filter fun r => r.device = device && r.key = key).getLast?) :
    SameLast results results' := by
  intro device key r
  rw [← Comparison.lastResult?_eq_some_iff, ← Comparison.lastResult?_eq_some_iff,
    Comparison.lastResult?_eq_getLast?, Comparison.lastResult?_eq_getLast?, same]

theorem Reordered.sameLast {results results' : List LatencySeries}
    (reordered : Reordered results results') : SameLast results results' :=
  sameLast_of_getLast? fun device key => congrArg List.getLast? (reordered.inOrder device key)

namespace SameLast

variable {results results' : List LatencySeries} (same : SameLast results results')

include same

theorem occurs_iff (device : Device) (key : ComparisonKey) :
    Occurs results device key ↔ Occurs results' device key := by
  rw [← Comparison.exists_isLast_iff, ← Comparison.exists_isLast_iff]
  exact exists_congr fun r => same device key r

theorem shows {row : Comparison Float} (shown : Comparison.Shows results row) :
    Comparison.Shows results' row := by
  obtain ⟨⟨r, last, figures⟩, accelerator⟩ := shown
  refine ⟨⟨r, (same _ _ _).mp last, figures⟩, ?_⟩
  rcases accelerator with ⟨g, last, figures⟩ | ⟨never, figures⟩
  · exact .inl ⟨g, (same _ _ _).mp last, figures⟩
  · exact .inr ⟨fun occurs => never ((same.occurs_iff _ _).mpr occurs), figures⟩

/-- The table of one list is that of the other. -/
theorem isTable {rows : List (Comparison Float)} (table : IsTable results rows) :
    IsTable results' rows where
  once := by
    intro key
    rw [table.once, if_congr (same.occurs_iff _ _) rfl rfl]
  shows := fun row member => same.shows (table.shows row member)
  increasing := table.increasing

theorem ofAll_eq : Comparison.ofAll results = Comparison.ofAll results' :=
  (same.isTable (Comparison.isTable_ofAll results)).unique (Comparison.isTable_ofAll results')

end SameLast

namespace Report

/-- Two data sets that no report tells apart. -/
structure SameReports (d d' : Dataset) : Prop where
  rows : d.rows = d'.rows
  byQuery : d.byQuery = d'.byQuery
  bySize : d.bySize = d'.bySize
  models : d.models = d'.models
  json : json d = json d'
  csv : csv d = csv d'
  markdown : markdown d = markdown d'
  console : console d = console d'

/-- **Order of arrival.** Two runs in one context give the same rows, groups and models and the same
    texts if the last result of each identity on each device is the same in both, and so in
    particular if the results of one are those of the other in another order, in which the results
    of one identity on one device follow one another as before. -/
theorem reports_ignore_arrival_order (run run' : Results) (context : run.context = run'.context)
    (alike : SameLast run.timings run'.timings ∨ Reordered run.timings run'.timings) :
    SameReports (.ofResults run) (.ofResults run') := by
  have last : SameLast run.timings run'.timings := by
    rcases alike with last | reordered
    · exact last
    · exact reordered.sameLast
  have same : Dataset.ofResults run = .ofResults run' := by
    rw [Dataset.ofResults, Dataset.ofResults, last.ofAll_eq, context]
  rw [same]
  exact ⟨rfl, rfl, rfl, rfl, rfl, rfl, rfl, rfl⟩

/-- A run on a machine of which nothing is known. -/
def plainRun (timings : List LatencySeries) : Results :=
  ⟨⟨Settings.default.plan, true, .unknown, ⟨0, 0⟩, 0.0⟩, timings⟩

/-- Some samples of a short query to a small model. -/
def shortSeries (modelId : String) (device : Device) (samples : List Float) : LatencySeries :=
  { LatencySeries.empty modelId "small" .short device with samples }

/-- What a short query to a small model is compared by. -/
def shortKey (modelId : String) : ComparisonKey := ⟨modelId, "small", .short⟩

@[simp] theorem device_shortSeries (modelId : String) (device : Device) (samples : List Float) :
    (shortSeries modelId device samples).device = device := rfl

@[simp] theorem key_shortSeries (modelId : String) (device : Device) (samples : List Float) :
    (shortSeries modelId device samples).key = shortKey modelId := rfl

/-- One model is timed twice on the CPU and once on the accelerator, another one once on the CPU. -/
def twiceTimed : List LatencySeries :=
  [shortSeries "a" .cpu [9.0], shortSeries "b" .cpu [2.0], shortSeries "a" .cuda [1.0],
    shortSeries "a" .cpu [3.0]]

/-- The same results in another order. -/
def twiceTimedLater : List LatencySeries :=
  [shortSeries "a" .cuda [1.0], shortSeries "b" .cpu [2.0], shortSeries "a" .cpu [9.0],
    shortSeries "a" .cpu [3.0]]

/-- The results without the one that is timed again. -/
def onceTimed : List LatencySeries :=
  [shortSeries "b" .cpu [2.0], shortSeries "a" .cpu [3.0], shortSeries "a" .cuda [1.0]]

theorem shortKey_ne : shortKey "b" ≠ shortKey "a" := by decide

theorem twiceTimed_reordered : Reordered twiceTimed twiceTimedLater where
  perm := by
    have first : twiceTimed.Perm [shortSeries "a" .cuda [1.0], shortSeries "a" .cpu [9.0],
        shortSeries "b" .cpu [2.0], shortSeries "a" .cpu [3.0]] :=
      @List.perm_middle _ _ [shortSeries "a" .cpu [9.0], shortSeries "b" .cpu [2.0]] _
    exact first.trans (.cons _ (.swap _ _ _))
  inOrder := by
    intro device key
    by_cases same : shortKey "a" = key
    · subst same
      cases device <;> simp [twiceTimed, twiceTimedLater, shortKey_ne]
    · cases device <;> simp [twiceTimed, twiceTimedLater, List.filter_cons, same]

theorem twiceTimed_sameLast : SameLast twiceTimed onceTimed := by
  refine sameLast_of_getLast? fun device key => ?_
  by_cases same : shortKey "a" = key
  · subst same
    cases device <;> simp [twiceTimed, onceTimed, shortKey_ne]
  · cases device <;> simp [twiceTimed, onceTimed, List.filter_cons, same]

/-- Neither another order nor the result that is timed again later changes a report. -/
theorem twiceTimed_same_reports :
    SameReports (.ofResults (plainRun twiceTimed)) (.ofResults (plainRun twiceTimedLater)) ∧
      SameReports (.ofResults (plainRun twiceTimed)) (.ofResults (plainRun onceTimed)) :=
  ⟨reports_ignore_arrival_order (plainRun twiceTimed) (plainRun twiceTimedLater) rfl
      (.inr twiceTimed_reordered),
    reports_ignore_arrival_order (plainRun twiceTimed) (plainRun onceTimed) rfl
      (.inl twiceTimed_sameLast)⟩

end Report

end EmbeddingLatency
