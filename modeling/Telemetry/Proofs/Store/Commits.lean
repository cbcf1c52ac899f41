import Telemetry.Proofs.Store.FirstSpan
import Telemetry.Proofs.Store.Streams

/-!
# Commits to one table

Each signal has a table of its own, which only depends on the steps of that signal
(`Store.sameTable_filter`).  So what a run of steps makes of a table is that of its commits alone,
whatever is interned and whatever other signals commit between them.

What such commits come to is said twice, as steps and by the table afterwards: spans are stored
where there was none, log records are appended, and points are put behind those of their streams
(`Store.CommitsSpans`, `Store.CommitsLogs`, `Store.CommitsMetrics`).
-/

namespace Telemetry

/-! ### The tables of signals -/

/-- The signal whose table a step changes. -/
def Step.signal? : Step → Option Signal
  | .commitSpan .. => some .traces
  | .commitLog .. => some .logs
  | .commitMetric .. | .commitPoint .. => some .metrics
  | _ => none

namespace Store

variable {s t : Store} {signal : Signal} {a : Step}

/-- Both stores have the same in the table of a signal. -/
def SameTable (signal : Signal) (s t : Store) : Prop :=
  match signal with
  | .traces => s.traces = t.traces
  | .logs => s.logs = t.logs
  | .metrics => s.metrics = t.metrics

namespace SameTable

theorem refl (signal : Signal) (s : Store) : s.SameTable signal s := by
  cases signal <;> rfl

theorem trans {u : Store} (h : s.SameTable signal t) (h' : t.SameTable signal u) :
    s.SameTable signal u := by
  cases signal <;> exact Eq.trans h h'

/-- A step of another signal, or of none, leaves the table alone. -/
theorem apply_of_ne (hreset : a.isReset = false) (ha : a.signal? ≠ some signal) (s : Store) :
    (a.apply s).SameTable signal s := by
  cases a with
  | reset => cases hreset
  -- a commit sets one table, and it is not that of the signal
  | commitSpan | commitLog | commitMetric | commitPoint =>
    cases signal <;> first | rfl | exact absurd rfl ha
  | _ => exact .refl signal _

/-- What a step makes of a table depends on that table alone. -/
theorem apply (h : s.SameTable signal t) (a : Step) : (a.apply s).SameTable signal (a.apply t) := by
  cases a with
  | reset => exact .refl signal _
  -- a commit reads no other table than the one it sets
  | commitSpan ref span =>
    cases signal with
    | traces => exact congrArg (fun traces => ({ s with traces }.commitSpan ref span).traces) h
    | _ => exact h
  | commitLog log =>
    cases signal with
    | logs => exact congrArg (Array.push · log) h
    | _ => exact h
  | commitMetric identity description metadata =>
    cases signal with
    | metrics =>
      exact congrArg (fun metrics =>
        ({ s with metrics }.commitMetric identity description metadata).metrics) h
    | _ => exact h
  | commitPoint identity description metadata attr point =>
    cases signal with
    | metrics =>
      exact congrArg (fun metrics =>
        ({ s with metrics }.commitPoint identity description metadata attr point).metrics) h
    | _ => exact h
  | _ => cases signal <;> exact h

theorem applyAll (h : s.SameTable signal t) (steps : List Step) :
    (Step.applyAll s steps).SameTable signal (Step.applyAll t steps) := by
  induction steps generalizing s t with
  | nil => exact h
  | cons a steps ih => exact ih (h.apply a)

end SameTable

/-- **A table only depends on the steps of its signal.** -/
theorem sameTable_filter (signal : Signal) (s : Store) {steps : List Step}
    (hreset : ∀ a ∈ steps, a.isReset = false) :
    (Step.applyAll s steps).SameTable signal
      (Step.applyAll s (steps.filter fun a => a.signal? = some signal)) := by
  induction steps generalizing s with
  | nil => exact .refl signal s
  | cons a steps ih =>
    rw [List.forall_mem_cons] at hreset
    have hrest := ih (a.apply s) hreset.2
    by_cases ha : a.signal? = some signal
    · rw [List.filter_cons_of_pos (by simpa using ha)]
      exact hrest
    · rw [List.filter_cons_of_neg (by simpa using ha)]
      exact hrest.trans ((SameTable.apply_of_ne hreset.1 ha s).applyAll _)

end Store

/-! ### Commits to a table -/

theorem Step.isReset_eq_false_of_signal? {a : Step} {signal : Signal}
    (h : a.signal? = some signal) : a.isReset = false := by
  cases a <;> first | rfl | cases h

namespace Store

variable {s after : Store}

/-- From one store to the next, spans have been committed in their order, in one step each.  A span
is stored under its reference unless there was one before, in the store or among the spans. -/
structure CommitsSpans (s after : Store) (spans : List (SpanRef × Span)) : Prop where
  bySteps : after.SameTable .traces
    (Step.applyAll s (spans.map fun x => .commitSpan x.1 x.2))
  stored : ∀ ref, after.span? ref =
    (s.span? ref).or (spans.findSome? fun x => if x.1 = ref then some x.2 else none)

theorem CommitsSpans.of_sameTable {spans : List (SpanRef × Span)}
    (h : after.SameTable .traces (Step.applyAll s (spans.map fun x => .commitSpan x.1 x.2))) :
    s.CommitsSpans after spans where
  bySteps := h
  stored ref := by
    have hreset : ∀ a ∈ spans.map (fun x => Step.commitSpan x.1 x.2), a.isReset = false :=
      List.forall_mem_map.mpr fun _ _ => rfl
    have hsame : after.span? ref =
        (Step.applyAll s (spans.map fun x => .commitSpan x.1 x.2)).span? ref :=
      congrArg (fun traces => ({ s with traces } : Store).span? ref) h
    rw [hsame, (keepsFirst_span ref).applyAll s hreset, List.findSome?_map]
    rfl

/-- From one store to the next, log records have been committed in their order, in one step each.
They stand behind those that were there. -/
structure CommitsLogs (s after : Store) (logs : List LogRecord) : Prop where
  bySteps : after.SameTable .logs (Step.applyAll s (logs.map .commitLog))
  appended : after.logs.toList = s.logs.toList ++ logs

theorem CommitsLogs.of_sameTable {logs : List LogRecord}
    (h : after.SameTable .logs (Step.applyAll s (logs.map .commitLog))) :
    s.CommitsLogs after logs where
  bySteps := h
  appended := by
    have hreset : ∀ a ∈ logs.map Step.commitLog, a.isReset = false :=
      List.forall_mem_map.mpr fun _ _ => rfl
    have hsame : after.logs = (Step.applyAll s (logs.map .commitLog)).logs := h
    have hoffers : (logs.map Step.commitLog).filterMap Step.log? = logs := by
      rw [List.filterMap_map]
      exact List.filterMap_some
    rw [hsame, keepsAll_log.applyAll s hreset, hoffers]

end Store

namespace PreparedMetric

variable (p : PreparedMetric)

theorem signal?_of_mem_commitSteps : ∀ a ∈ p.commitSteps, a.signal? = some .metrics :=
  List.forall_mem_cons.mpr ⟨rfl, List.forall_mem_map.mpr fun _ _ => rfl⟩

/-- All steps for a metric offer its identity, and there is at least the one for the header. -/
theorem findSome?_commitSteps (id : MetricId) :
    p.commitSteps.findSome? (Step.identity? id) =
      if p.identity.id = id then some p.identity else none := by
  by_cases hid : p.identity.id = id
  · simp [commitSteps, Step.identity?, hid]
  · rw [if_neg hid, List.findSome?_eq_none_iff]
    exact List.forall_mem_cons.mpr ⟨if_neg hid, List.forall_mem_map.mpr fun _ _ => if_neg hid⟩

end PreparedMetric

theorem findSome?_flatMap {α β γ : Type} {f : α → List β} {offer : β → Option γ} (xs : List α) :
    (xs.flatMap f).findSome? offer = xs.findSome? fun x => (f x).findSome? offer := by
  induction xs with
  | nil => rfl
  | cons x xs ih =>
    rw [List.flatMap_cons, List.findSome?_append, ih, List.findSome?_cons]
    cases (f x).findSome? offer <;> rfl

namespace Store

variable {s after : Store}

/-- From one store to the next, metrics have been committed in their order, header and points.  The
identity under an id stays, or is that of the first metric with the id, and points stand behind
those that were in their stream. -/
structure CommitsMetrics (s after : Store) (metrics : List PreparedMetric) : Prop where
  bySteps : after.SameTable .metrics
    (Step.applyAll s (metrics.flatMap PreparedMetric.commitSteps))
  identities : ∀ id, (after.metrics.get? id).map Metric.identity =
    ((s.metrics.get? id).map Metric.identity).or
      (metrics.findSome? fun p => if p.identity.id = id then some p.identity else none)
  points : ∀ id st, after.pointsOf id st =
    s.pointsOf id st ++ metrics.flatMap fun p => p.pointsUnder id st

theorem CommitsMetrics.of_sameTable {metrics : List PreparedMetric}
    (h : after.SameTable .metrics
      (Step.applyAll s (metrics.flatMap PreparedMetric.commitSteps))) :
    s.CommitsMetrics after metrics := by
  have hreset : ∀ a ∈ metrics.flatMap PreparedMetric.commitSteps, a.isReset = false :=
    List.forall_mem_flatMap.mpr fun p _ a ha =>
      Step.isReset_eq_false_of_signal? (p.signal?_of_mem_commitSteps a ha)
  have hsame : after.metrics =
      (Step.applyAll s (metrics.flatMap PreparedMetric.commitSteps)).metrics := h
  -- identities and streams are read off the table of metrics, so the laws of runs apply to them
  refine ⟨h, fun id => ?_, fun id st => ?_⟩
  · rw [hsame, (keepsFirst_identity id).applyAll s hreset, findSome?_flatMap]
    simp only [PreparedMetric.findSome?_commitSteps]
  · have hpoints : after.pointsOf id st =
        (Step.applyAll s (metrics.flatMap PreparedMetric.commitSteps)).pointsOf id st :=
      congrArg (fun metrics => ({ s with metrics } : Store).pointsOf id st) hsame
    rw [hpoints, (keepsAll_pointsOf id st).applyAll s hreset, List.filterMap_flatMap]
    simp only [PreparedMetric.filterMap_commitSteps]

end Store

end Telemetry
