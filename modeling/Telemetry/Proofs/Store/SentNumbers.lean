import Telemetry.Proofs.Otlp.Kept
import Telemetry.Proofs.Otlp.Names
import Telemetry.Proofs.Store.MetricKinds
import Telemetry.Proofs.Store.References

/-!
# What numbers were sent

Temporalities, span kinds, status codes and severities are sent as numbers and stored as the texts
that are shown for them.  Nothing is lost by that: where two metrics have different temporality
numbers their identities differ, whatever else they have in common
(`Otlp.Metric.temporalityNumber?_eq`), and the texts of a stored span or log record are shown for
the numbers it was sent with and for no others (`names_tell_sent_numbers`).
-/

namespace Telemetry

/-! ### Numbers of what is sent -/

namespace Otlp

/-- The number of the aggregation temporality, where the type of data has one. -/
def MetricData.temporalityNumber? : MetricData → Option Int32
  | .gauge _ | .summary _ => none
  | .sum _ t _ | .histogram _ t | .exponential _ t => some t

/-- The number of the aggregation temporality of a metric.  Only sums and histograms have one. -/
def Metric.temporalityNumber? (m : Metric) : Option Int32 :=
  m.data.bind MetricData.temporalityNumber?

/-- The number of the status code of a span.  A span without a status has the code for unset. -/
def Span.statusCode (s : Span) : Int32 :=
  (s.status.map Status.code).getD 0

theorem Metric.temporality_identity (m : Metric) :
    m.identity.temporality = (m.temporalityNumber?.map temporalityName).getD "" := by
  unfold identity temporalityNumber?
  cases m.data with
  | none => rfl
  | some data => cases data <;> rfl

theorem temporalityText_injective :
    Function.Injective fun number? : Option Int32 => (number?.map temporalityName).getD "" := by
  -- the empty text stands for no number, and no number is shown by it
  rintro (_ | t) (_ | t') h
  · rfl
  · exact absurd h.symm (temporalityName_ne_empty t')
  · exact absurd h (temporalityName_ne_empty t)
  · exact congrArg some (showsByName_temporality.injective h)

/-- **The temporality in an identity tells its number**, and whether there is one. -/
theorem Metric.temporalityNumber?_eq {m m' : Metric}
    (h : m.identity.temporality = m'.identity.temporality) :
    m.temporalityNumber? = m'.temporalityNumber? := by
  rw [temporality_identity, temporality_identity] at h
  exact temporalityText_injective h

end Otlp

theorem PreparedMetric.temporality_identityFrom (p : PreparedMetric) (origin : Origin) :
    (p.identityFrom origin).temporality = p.identity.temporality := rfl

/-! ### What was sent as a record -/

namespace Call

/-- The call sends a span that is stored under the reference as the given record. -/
def SendsSpan (call : Call) (x : Otlp.Span) (ref : SpanRef) (span : Span) : Prop :=
  match call.payload with
  | .traces request =>
    ∃ resource scope p, ⟨resource, scope, x⟩ ∈ request.sent ∧ x.prepare = .ok p ∧
      .commitSpan ref span ∈ p.commit ⟨call.sender.id, resource.id, scope.id⟩
  | _ => False

/-- The call sends a log record that is stored as the given one. -/
def SendsLog (call : Call) (x : Otlp.LogRecord) (log : LogRecord) : Prop :=
  match call.payload with
  | .logs request =>
    ∃ resource scope now p, ⟨resource, scope, x⟩ ∈ request.sent ∧ call.clock.Tells now ∧
      x.prepare now = .ok p ∧ .commitLog log ∈ p.commit ⟨call.sender.id, resource.id, scope.id⟩
  | _ => False

variable {call : Call} {resource : Resource} {scope : Scope}

theorem Commits.exists_sendsSpan {ref : SpanRef} {span : Span}
    (h : call.Commits resource scope (.commitSpan ref span)) : ∃ x, call.SendsSpan x ref span := by
  unfold Commits at h
  unfold SendsSpan
  -- no step for a log record or a metric commits a span
  cases hpayload : call.payload with
  | traces request =>
    rw [hpayload] at h
    obtain ⟨x, p, hx, hp, ha⟩ := h
    exact ⟨x, resource, scope, p, hx, hp, ha⟩
  | logs request =>
    rw [hpayload] at h
    obtain ⟨x, now, p, -, -, -, ha⟩ := h
    cases List.mem_singleton.mp ha
  | metrics request =>
    rw [hpayload] at h
    obtain ⟨x, p, -, -, ha⟩ := h
    simp [PreparedMetric.commit] at ha

theorem Commits.exists_sendsLog {log : LogRecord}
    (h : call.Commits resource scope (.commitLog log)) : ∃ x, call.SendsLog x log := by
  unfold Commits at h
  unfold SendsLog
  -- no step for a span or a metric commits a log record
  cases hpayload : call.payload with
  | traces request =>
    rw [hpayload] at h
    obtain ⟨x, p, -, -, ha⟩ := h
    cases List.mem_singleton.mp ha
  | logs request =>
    rw [hpayload] at h
    obtain ⟨x, now, p, hx, htells, hp, ha⟩ := h
    exact ⟨x, resource, scope, now, p, hx, htells, hp, ha⟩
  | metrics request =>
    rw [hpayload] at h
    obtain ⟨x, p, -, -, ha⟩ := h
    simp [PreparedMetric.commit] at ha

theorem SendsSpan.names {x : Otlp.Span} {ref : SpanRef} {span : Span}
    (h : call.SendsSpan x ref span) :
    span.kind = Otlp.kindName x.kind ∧ span.summary.status = Otlp.statusName x.statusCode := by
  unfold SendsSpan at h
  split at h
  · obtain ⟨resource, scope, p, -, hp, ha⟩ := h
    obtain ⟨-, rfl⟩ := Step.commitSpan.inj (List.mem_singleton.mp ha)
    have hkept := Otlp.Span.keptAs_of_prepare hp
    exact ⟨hkept.kind, hkept.status⟩
  · exact h.elim

theorem SendsLog.severity {x : Otlp.LogRecord} {log : LogRecord} (h : call.SendsLog x log) :
    log.summary.severity = Otlp.severityName x.severity := by
  unfold SendsLog at h
  split at h
  · obtain ⟨resource, scope, now, p, -, -, hp, ha⟩ := h
    obtain rfl := Step.commitLog.inj (List.mem_singleton.mp ha)
    have hprepared : p.summary.severity = _ := (Otlp.LogRecord.keptAs_of_prepare hp).severity
    exact hprepared
  · exact h.elim

end Call

/-! ### What a stored text tells -/

/-- What a run has stored since the last reset some call has sent, wherever the resets fell. -/
theorem Run.exists_commits {ι : Type} [DecidableEq ι] {calls : ι → Call} {run : Run calls}
    {a : Step} (ha : a ∈ Step.sinceReset (run.turns.map Turn.toStep))
    (hintern : a.isIntern = false) :
    ∃ i resource scope, .step i a ∈ run.recent ∧ (calls i).Commits resource scope a := by
  obtain ⟨i, hi, hstep⟩ := run.exists_of_mem_sinceReset ha
  obtain ⟨resource, scope, hcommits⟩ := Call.exists_commits hstep hintern
  exact ⟨i, resource, scope, hi, hcommits⟩

open Otlp in
/-- **Texts tell the numbers that were sent.**  Each of the four functions shows the numbers that
have a name by it and all others in decimal, and no two numbers alike.  So two metrics whose
temporality numbers differ never have one identity.  Every span that is stored, whatever calls are
served and wherever the store is reset, was sent by a call, and its kind and its status are shown
for no other numbers than those that were sent; a span without a status counts as unset.  The same
holds of the severity of every log record. -/
theorem names_tell_sent_numbers :
    (ShowsByName ["", "Ok", "Error"] statusName ∧
      ShowsByName ["Unspecified", "Internal", "Server", "Client", "Producer", "Consumer"]
        kindName ∧
      ShowsByName ("" :: ["Trace", "Debug", "Info", "Warn", "Error", "Fatal"].flatMap fun level =>
        [level, level ++ "2", level ++ "3", level ++ "4"]) severityName ∧
      ShowsByName ["Unspecified", "Delta", "Cumulative"] temporalityName) ∧
    (∀ (m m' : Otlp.Metric) (p p' : PreparedMetric) (origin origin' : Origin),
      m.prepare = .ok p → m'.prepare = .ok p' → m.temporalityNumber? ≠ m'.temporalityNumber? →
        p.identityFrom origin ≠ p'.identityFrom origin') ∧
    ∀ {ι : Type} [DecidableEq ι] {calls : ι → Call} (run : Run calls),
      (∀ ref span, run.store.span? ref = some span →
        (∃ i x, .step i (.commitSpan ref span) ∈ run.recent ∧ (calls i).SendsSpan x ref span) ∧
        ∀ (call : Call) x, call.SendsSpan x ref span →
          (∀ number, kindName number = span.kind ↔ number = x.kind) ∧
          ∀ number, statusName number = span.summary.status ↔ number = x.statusCode) ∧
      ∀ (index : Nat) log, run.store.logs[index]? = some log →
        (∃ i x, .step i (.commitLog log) ∈ run.recent ∧ (calls i).SendsLog x log) ∧
        ∀ (call : Call) x, call.SendsLog x log →
          ∀ number, severityName number = log.summary.severity ↔ number = x.severity := by
  refine ⟨⟨showsByName_status, showsByName_kind, ?_, showsByName_temporality⟩, ?_, ?_⟩
  · rw [← severityNames_eq]
    exact showsByName_severity
  · intro m m' p p' origin origin' hp hp' hnumbers hidentity
    have htemporality := congrArg MetricIdentity.temporality hidentity
    rw [PreparedMetric.temporality_identityFrom, PreparedMetric.temporality_identityFrom,
      (Metric.of_prepare hp).1, (Metric.of_prepare hp').1] at htemporality
    exact hnumbers (Metric.temporalityNumber?_eq htemporality)
  · intro ι _ calls run
    constructor
    · intro ref span hspan
      obtain ⟨i, resource, scope, hi, hcommits⟩ :=
        run.exists_commits (Run.mem_recent_of_span?_eq_some hspan) rfl
      obtain ⟨x, hx⟩ := hcommits.exists_sendsSpan
      refine ⟨⟨i, x, hi, hx⟩, fun call y hy => ?_⟩
      obtain ⟨hkind, hstatus⟩ := hy.names
      rw [hkind, hstatus]
      exact ⟨fun _ => showsByName_kind.injective.eq_iff,
        fun _ => showsByName_status.injective.eq_iff⟩
    · intro index log hlog
      obtain ⟨i, resource, scope, hi, hcommits⟩ :=
        run.exists_commits (Run.mem_recent_of_logs_eq_some hlog) rfl
      obtain ⟨x, hx⟩ := hcommits.exists_sendsLog
      refine ⟨⟨i, x, hi, hx⟩, fun call y hy _ => ?_⟩
      rw [hy.severity]
      exact showsByName_severity.injective.eq_iff

end Telemetry
