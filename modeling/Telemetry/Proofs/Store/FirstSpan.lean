import Mathlib.Data.Finset.Dedup
import Mathlib.Data.Finset.Card
import Telemetry.Proofs.Store.History

/-!
# The first span stays

A store keeps the first span that is committed under a reference and drops every later one until
it is reset.  `keepsFirst_span` says so of one step, and `first_span_stays` of every run: what is
stored, what each commit answers and warns about, and how many spans there are.
-/

namespace Telemetry

namespace Step

/-- The span that a step commits under a reference. -/
def span? (ref : SpanRef) : Step → Option Span
  | .commitSpan r span => if r = ref then some span else none
  | _ => none

/-- The reference that a step commits a span under. -/
def spanRef? : Step → Option SpanRef
  | .commitSpan ref _ => some ref
  | _ => none

theorem span?_eq_some {ref : SpanRef} {span : Span} {a : Step} :
    a.span? ref = some span ↔ a = .commitSpan ref span := by
  constructor
  · intro h
    cases a with
    | commitSpan r sp =>
      simp only [span?, Option.ite_none_right_eq_some, Option.some.injEq] at h
      rw [h.1, h.2]
    | _ => cases h
  · rintro rfl
    simp [span?]

end Step

namespace Store

/-- The number of stored spans. -/
def spanCount (s : Store) : Nat :=
  (s.traces.values.map Table.size).sum

/-! ### One commit -/

theorem span?_commitSpan (s : Store) (r ref : SpanRef) (span : Span) :
    (s.commitSpan r span).span? ref =
      (s.span? ref).or (if r = ref then some span else none) := by
  unfold span? commitSpan
  by_cases htrace : ref.trace = r.trace
  · rw [htrace, Table.get?_upsert_self, Option.bind_some, Table.get?_insertIfNew_or]
    have hold : ((s.traces.get? r.trace).getD .empty).get? ref.span =
        (s.traces.get? r.trace).bind fun trace => trace.get? ref.span := by
      cases s.traces.get? r.trace <;> rfl
    have hsame : r.span = ref.span ↔ r = ref :=
      ⟨fun h => by cases r; cases ref; simp_all, fun h => by rw [h]⟩
    simp only [hold, hsame]
  · have hne : r ≠ ref := fun h => htrace (by rw [h])
    rw [Table.get?_upsert_of_ne _ htrace, if_neg hne, Option.or_none]

theorem keepsFirst_span (ref : SpanRef) : KeepsFirst (fun s => s.span? ref) (Step.span? ref) where
  empty := rfl
  apply s a ha := by
    cases a with
    | commitSpan r span => exact span?_commitSpan s r ref span
    | reset => cases ha
    | _ => exact Option.or_none.symm

/-- A commit under a reference that is taken changes nothing. -/
theorem commitSpan_eq_self {s : Store} {ref : SpanRef} (h : s.acceptsSpan ref = false)
    (span : Span) : s.commitSpan ref span = s := by
  obtain ⟨old, hold⟩ : ∃ old, s.span? ref = some old := by
    simpa [acceptsSpan, Option.isSome_iff_exists] using h
  obtain ⟨trace, htrace, hspan⟩ := Option.bind_eq_some_iff.mp hold
  have hsame : s.traces.upsert ref.trace
      (fun trace => (trace.getD .empty).insertIfNew ref.span span) = s.traces := by
    apply Table.upsert_eq_self
    rw [htrace, Option.getD_some, Table.insertIfNew_eq_self hspan]
  unfold commitSpan
  rw [hsame]

theorem spanCount_commitSpan (s : Store) (ref : SpanRef) (span : Span) :
    (s.commitSpan ref span).spanCount =
      if s.acceptsSpan ref then s.spanCount + 1 else s.spanCount := by
  cases hnew : s.acceptsSpan ref with
  | false => rw [commitSpan_eq_self hnew, if_neg Bool.false_ne_true]
  | true =>
    have hsum := Table.sum_upsert s.traces ref.trace
      (fun trace => (trace.getD .empty).insertIfNew ref.span span) Table.size
    have hmissing : ((s.traces.get? ref.trace).getD .empty).get? ref.span = none := by
      unfold acceptsSpan span? at hnew
      cases htrace : s.traces.get? ref.trace with
      | none => rfl
      | some trace => simpa [htrace] using hnew
    have hsize : ((s.traces.get? ref.trace).map Table.size).getD 0 =
        ((s.traces.get? ref.trace).getD .empty).size := by
      cases s.traces.get? ref.trace <;> rfl
    rw [Table.insertIfNew, Table.size_upsert, hmissing, Option.isSome_none, hsize,
      if_neg Bool.false_ne_true] at hsum
    rw [if_pos rfl]
    change (s.commitSpan ref span).spanCount + _ = s.spanCount + _ at hsum
    omega

/-! ### Every run -/

theorem span?_after_eq_some {steps : List Step} {ref : SpanRef} {span : Span} :
    (after steps).span? ref = some span ↔
      ∃ earlier later, Step.sinceReset steps = earlier ++ .commitSpan ref span :: later ∧
        ∀ other, .commitSpan ref other ∉ earlier := by
  rw [(keepsFirst_span ref).after, List.findSome?_eq_some_iff]
  constructor
  · rintro ⟨earlier, a, later, hsplit, ha, hbefore⟩
    obtain rfl := Step.span?_eq_some.mp ha
    refine ⟨earlier, later, hsplit, fun other hother => ?_⟩
    have := hbefore _ hother
    simp [Step.span?] at this
  · rintro ⟨earlier, later, hsplit, hbefore⟩
    refine ⟨earlier, _, later, hsplit, Step.span?_eq_some.mpr rfl, fun a ha => ?_⟩
    cases hspan : a.span? ref with
    | none => rfl
    | some other =>
      rw [Step.span?_eq_some.mp hspan] at ha
      exact absurd ha (hbefore other)

theorem isSome_span?_after {steps : List Step} {ref : SpanRef} :
    ((after steps).span? ref).isSome ↔ ∃ span, .commitSpan ref span ∈ Step.sinceReset steps := by
  rw [(keepsFirst_span ref).after, List.findSome?_isSome_iff]
  constructor
  · rintro ⟨a, ha, hoffer⟩
    obtain ⟨span, hspan⟩ := Option.isSome_iff_exists.mp hoffer
    exact ⟨span, Step.span?_eq_some.mp hspan ▸ ha⟩
  · rintro ⟨span, hspan⟩
    exact ⟨_, hspan, by rw [Step.span?_eq_some.mpr rfl]; rfl⟩

/-- A commit is accepted iff it is the first one under its reference since the last reset. -/
theorem acceptsSpan_after {steps : List Step} {ref : SpanRef} :
    (after steps).acceptsSpan ref = true ↔
      ∀ other, .commitSpan ref other ∉ Step.sinceReset steps := by
  rw [acceptsSpan, Option.isNone_iff_eq_none, ← Option.not_isSome_iff_eq_none,
    isSome_span?_after, not_exists]

/-- There are as many spans as references were committed since the last reset. -/
theorem spanCount_after (steps : List Step) :
    (after steps).spanCount = ((Step.sinceReset steps).filterMap Step.spanRef?).toFinset.card := by
  induction steps using List.reverseRecOn with
  | nil => rfl
  | append_singleton steps a ih =>
    rw [after_concat]
    cases a with
    | reset =>
      rw [Step.sinceReset_concat_reset]
      rfl
    | commitSpan ref span =>
      have hnew : (after steps).acceptsSpan ref = true ↔
          ref ∉ ((Step.sinceReset steps).filterMap Step.spanRef?).toFinset := by
        rw [acceptsSpan_after, List.mem_toFinset, List.mem_filterMap]
        constructor
        · rintro h ⟨a, ha, href⟩
          cases a with
          | commitSpan r other => cases href; exact h other ha
          | _ => cases href
        · intro h other hother
          exact h ⟨_, hother, rfl⟩
      rw [Step.sinceReset_concat _ rfl, List.filterMap_append, List.toFinset_append,
        show Step.apply (after steps) (.commitSpan ref span) = (after steps).commitSpan ref span
          from rfl, spanCount_commitSpan, ih]
      simp only [List.filterMap_cons, List.filterMap_nil, Step.spanRef?, List.toFinset_cons,
        List.toFinset_nil, LawfulSingleton.insert_empty_eq, Finset.union_singleton]
      split
      · rw [Finset.card_insert_of_notMem (hnew.mp ‹_›)]
      · rw [Finset.insert_eq_of_mem (not_not.mp fun h => ‹¬ _› (hnew.mpr h))]
    | _ =>
      rw [Step.sinceReset_concat _ rfl, List.filterMap_append]
      exact ih.trans (congrArg _ (congrArg _ (List.append_nil _).symm))

/-- **The first span stays, over every run.**  A pair of ids is stored iff a span was committed
under it since the last reset, and the first of those spans is the stored one.  That commit alone
was accepted: each later one answers no, warns once and leaves every table as it is.  Until a reset
no stored span changes or goes away, a commit does not touch the spans of other pairs, and there
are as many spans as pairs were committed.  Any order in which calls and resets take their steps is
such a run. -/
theorem first_span_stays (steps : List Step) :
    (∀ ref, ((after steps).span? ref).isSome ↔
      ∃ span, .commitSpan ref span ∈ Step.sinceReset steps) ∧
    (∀ ref span, (after steps).span? ref = some span ↔
      ∃ earlier later, Step.sinceReset steps = earlier ++ .commitSpan ref span :: later ∧
        ∀ other, .commitSpan ref other ∉ earlier) ∧
    (∀ ref span,
      ((after steps).acceptsSpan ref = true ↔
        ∀ other, .commitSpan ref other ∉ Step.sinceReset steps) ∧
      ((after steps).acceptsSpan ref = true →
        (Step.commitSpan ref span).warnings (after steps) = [] ∧
          (after (steps ++ [.commitSpan ref span])).span? ref = some span) ∧
      ((after steps).acceptsSpan ref = false →
        (Step.commitSpan ref span).warnings (after steps) = [.repeatedSpan ref.span] ∧
          (Warning.repeatedSpan ref.span).text = "span " ++ ref.span.hex ++ " received twice" ∧
          after (steps ++ [.commitSpan ref span]) = after steps) ∧
      ∀ other, other ≠ ref →
        (after (steps ++ [.commitSpan ref span])).span? other = (after steps).span? other) ∧
    (∀ later, (∀ a ∈ later, a.isReset = false) → ∀ ref span,
      (after steps).span? ref = some span → (after (steps ++ later)).span? ref = some span) ∧
    (after steps).spanCount =
      ((Step.sinceReset steps).filterMap Step.spanRef?).toFinset.card := by
  refine ⟨fun ref => isSome_span?_after, fun ref span => span?_after_eq_some,
    fun ref span => ⟨acceptsSpan_after, fun hnew => ?_, fun htaken => ?_, fun other hother => ?_⟩,
    fun later hlater ref span hspan => ?_, spanCount_after steps⟩
  · have hnone : (after steps).span? ref = none := by simpa [acceptsSpan] using hnew
    refine ⟨by simp [Step.warnings, hnone], ?_⟩
    rw [after_concat, (keepsFirst_span ref).apply _ _ rfl, hnone, Option.none_or,
      Step.span?_eq_some]
  · have hsome : ((after steps).span? ref).isSome = true := by
      simpa [acceptsSpan] using htaken
    refine ⟨by simp [Step.warnings, hsome], rfl, ?_⟩
    rw [after_concat]
    exact commitSpan_eq_self htaken span
  · rw [after_concat, (keepsFirst_span other).apply _ _ rfl, Step.span?, if_neg (Ne.symm hother),
      Option.or_none]
  · rw [after, Step.applyAll_append, (keepsFirst_span ref).applyAll _ hlater]
    exact Option.or_eq_some_iff.mpr (Or.inl hspan)

end Store

end Telemetry
