import Telemetry.Proofs.Store.Soundness
import Telemetry.Proofs.Store.Streams

/-!
# Whole calls and resets

Where a store is changed by whole calls and resets only, what was done since the last reset are the
steps of the calls since then (`Operation.mem_sinceReset_flatMap_steps`).  So the points of a metric
are those of the calls that were accepted and had some (`Call.HasPoints`), and each names the request
of its call (`Operation.mem_contributingRequests_iff`).  Such a call has interned its request, so
that none of these requests is missing (`Operation.isSome_request`).
-/

namespace Telemetry

/-! ### The requests of the points of a metric -/

theorem Metric.mem_contributingRequests {metric : Metric} {request : RequestId} :
    request ∈ metric.contributingRequests ↔ ∃ st stream point,
      metric.streams.get? st = some stream ∧ point ∈ stream.points ∧
        point.base.request = request := by
  rw [contributingRequests, List.mem_flatMap]
  constructor
  · rintro ⟨stream, hstream, hrequest⟩
    obtain ⟨⟨st, _⟩, hentry, rfl⟩ := List.mem_map.mp hstream
    obtain ⟨point, hpoint, rfl⟩ := List.mem_map.mp hrequest
    exact ⟨st, _, point, Table.get?_eq_some_iff.mpr hentry, hpoint, rfl⟩
  · rintro ⟨st, stream, point, hstream, hpoint, rfl⟩
    refine ⟨stream, ?_, List.mem_map_of_mem hpoint⟩
    exact List.mem_map_of_mem (Table.get?_eq_some_iff.mp hstream)

/-- The requests of the points of a metric are those of the points in its streams. -/
theorem Store.mem_contributingRequests_iff {s : Store} {metric : Metric} {id : MetricId}
    {request : RequestId} (hmetric : s.metrics.get? id = some metric) :
    request ∈ metric.contributingRequests ↔
      ∃ st, ∃ point ∈ s.pointsOf id st, point.base.request = request := by
  have hpoints (st : StreamId) :
      s.pointsOf id st = ((metric.streams.get? st).map MetricStream.points).getD [] := by
    rw [pointsOf, stream?, hmetric, Option.bind_some]
  rw [Metric.mem_contributingRequests]
  constructor
  · rintro ⟨st, stream, point, hstream, hpoint, hrequest⟩
    refine ⟨st, point, ?_, hrequest⟩
    rw [hpoints, hstream]
    exact hpoint
  · rintro ⟨st, point, hpoint, hrequest⟩
    rw [hpoints] at hpoint
    cases hstream : metric.streams.get? st with
    | none =>
      rw [hstream] at hpoint
      cases hpoint
    | some stream =>
      rw [hstream] at hpoint
      exact ⟨st, stream, point, hstream, hpoint, hrequest⟩

/-! ### Calls that deliver points -/

/-- The call is accepted and has a point of the metric. -/
def Call.HasPoints (call : Call) (id : MetricId) : Prop :=
  (∃ steps, call.payload.steps call.clock call.sender = .ok steps) ∧ ∃ st, call.pointsFor id st ≠ []

theorem Call.hasPoints_iff {call : Call} {id : MetricId} :
    call.HasPoints id ↔ ∃ a ∈ call.steps, ∃ st point, a.pointIn? id st = some point := by
  constructor
  · rintro ⟨⟨steps, hsteps⟩, st, hpoints⟩
    rw [← Call.filterMap_steps hsteps] at hpoints
    obtain ⟨point, hpoint⟩ := List.exists_mem_of_ne_nil _ hpoints
    obtain ⟨a, ha, hpoint⟩ := List.mem_filterMap.mp hpoint
    refine ⟨a, ?_, st, point, hpoint⟩
    rwa [Call.steps, hsteps]
  · rintro ⟨a, ha, st, point, hpoint⟩
    have hmem : point ∈ call.steps.filterMap (Step.pointIn? id st) :=
      List.mem_filterMap.mpr ⟨a, ha, hpoint⟩
    refine ⟨?_, st, List.ne_nil_of_mem ((call.prefix_filterMap_steps id st).subset hmem)⟩
    unfold Call.steps at ha
    split at ha
    · exact ⟨_, ‹_›⟩
    · cases ha

/-- A call that stores a point interns its own request. -/
theorem Call.internRequest_mem_steps {call : Call} {a : Step} (ha : a ∈ call.steps) {id : MetricId}
    {st : StreamId} {point : Point} (hpoint : a.pointIn? id st = some point) :
    .internRequest call.sender ∈ call.steps := by
  rcases Call.of_mem_taken List.prefix_rfl ha with hintern | ⟨resource, scope, -, hinterns⟩
  · cases a with
    | commitPoint => cases hintern
    | _ => cases hpoint
  · exact hinterns.request

/-! ### Whole calls and resets -/

namespace Operation

/-- The operation is a reset. -/
def isReset : Operation → Bool
  | .step a => a.isReset
  | .ingest _ => false

/-- The operations after the last reset. -/
def sinceReset (operations : List Operation) : List Operation :=
  operations.rtakeWhile fun operation => !operation.isReset

/-- The operation is a whole call or a reset. -/
def IsWhole : Operation → Prop
  | .step a => a = .reset
  | .ingest _ => True

theorem isReset_of_mem_steps {operation : Operation} (h : operation.isReset = false) {a : Step}
    (ha : a ∈ operation.steps) : a.isReset = false := by
  cases operation with
  | step b =>
    obtain rfl := List.mem_singleton.mp ha
    exact h
  | ingest call => exact Call.isReset_of_mem_steps ha

/-- The steps since the last reset are those of the operations since then. -/
theorem sinceReset_flatMap_steps (operations : List Operation) :
    Step.sinceReset (operations.flatMap steps) = (sinceReset operations).flatMap steps := by
  induction operations using List.reverseRecOn with
  | nil => rfl
  | append_singleton operations operation ih =>
    rw [List.flatMap_append, List.flatMap_singleton, sinceReset]
    cases hreset : operation.isReset with
    | true =>
      cases operation with
      | step a =>
        obtain rfl := Step.eq_reset_of_isReset hreset
        rw [List.rtakeWhile_concat_neg _ _ _ (by simp [hreset])]
        exact Step.sinceReset_concat_reset _
      | ingest call => cases hreset
    | false =>
      rw [List.rtakeWhile_concat_pos _ _ _ (by simp [hreset]), List.flatMap_append,
        List.flatMap_singleton, Step.sinceReset_append fun a ha => isReset_of_mem_steps hreset ha, ih]
      rfl

variable {operations : List Operation}

/-- Where calls are whole, what was done since the last reset are steps of calls. -/
theorem mem_sinceReset_flatMap_steps (hwhole : ∀ operation ∈ operations, operation.IsWhole)
    {a : Step} : a ∈ (sinceReset operations).flatMap steps ↔
      ∃ call, .ingest call ∈ sinceReset operations ∧ a ∈ call.steps := by
  constructor
  · intro h
    rcases mem_flatMap_steps h with hstep | hcall
    · -- a step that is no part of a call is a reset, and there is none since the last one
      obtain rfl : a = .reset := hwhole _ ((List.rtakeWhile_suffix _ _).subset hstep)
      cases List.mem_rtakeWhile_imp hstep
    · exact hcall
  · rintro ⟨call, hcall, ha⟩
    exact List.mem_flatMap.mpr ⟨_, hcall, ha⟩

theorem applyAll_eq_after (operations : List Operation) :
    applyAll .empty operations = .after (operations.flatMap steps) :=
  applyAll_eq_applyAll .empty operations

/-- The points that are stored are those that calls have delivered since the last reset. -/
theorem mem_pointsOf_iff (hwhole : ∀ operation ∈ operations, operation.IsWhole) {id : MetricId}
    {st : StreamId} {point : Point} :
    point ∈ (applyAll .empty operations).pointsOf id st ↔
      ∃ call, .ingest call ∈ sinceReset operations ∧
        ∃ a ∈ call.steps, a.pointIn? id st = some point := by
  rw [applyAll_eq_after, Store.pointsOf_after, sinceReset_flatMap_steps, List.mem_filterMap]
  constructor
  · rintro ⟨a, ha, hpoint⟩
    obtain ⟨call, hcall, ha⟩ := (mem_sinceReset_flatMap_steps hwhole).mp ha
    exact ⟨call, hcall, a, ha, hpoint⟩
  · rintro ⟨call, hcall, a, ha, hpoint⟩
    exact ⟨a, (mem_sinceReset_flatMap_steps hwhole).mpr ⟨call, hcall, ha⟩, hpoint⟩

/-- **The requests of the points of a metric are those of the calls that delivered them.** -/
theorem mem_contributingRequests_iff (hwhole : ∀ operation ∈ operations, operation.IsWhole)
    {id : MetricId} {metric : Metric}
    (hmetric : (applyAll .empty operations).metrics.get? id = some metric) {request : RequestId} :
    request ∈ metric.contributingRequests ↔
      ∃ call, .ingest call ∈ sinceReset operations ∧ call.sender.id = request ∧
        call.HasPoints id := by
  rw [Store.mem_contributingRequests_iff hmetric]
  constructor
  · rintro ⟨st, point, hpoint, rfl⟩
    obtain ⟨call, hcall, a, ha, hpoint⟩ := (mem_pointsOf_iff hwhole).mp hpoint
    exact ⟨call, hcall, (Call.request_of_pointIn? ha hpoint).symm,
      Call.hasPoints_iff.mpr ⟨a, ha, st, point, hpoint⟩⟩
  · rintro ⟨call, hcall, rfl, hhas⟩
    obtain ⟨a, ha, st, point, hpoint⟩ := Call.hasPoints_iff.mp hhas
    exact ⟨st, point, (mem_pointsOf_iff hwhole).mpr ⟨call, hcall, a, ha, hpoint⟩,
      Call.request_of_pointIn? ha hpoint⟩

/-- **No request of a point is missing**: the call that has delivered the point has interned it. -/
theorem isSome_request (hwhole : ∀ operation ∈ operations, operation.IsWhole) {id : MetricId}
    {metric : Metric} (hmetric : (applyAll .empty operations).metrics.get? id = some metric)
    {request : RequestId} (h : request ∈ metric.contributingRequests) :
    ((applyAll .empty operations).requests.get? request).isSome = true := by
  obtain ⟨call, hcall, rfl, hhas⟩ := (mem_contributingRequests_iff hwhole hmetric).mp h
  obtain ⟨a, ha, st, point, hpoint⟩ := Call.hasPoints_iff.mp hhas
  have hintern : .internRequest call.sender ∈ Step.sinceReset (operations.flatMap steps) := by
    rw [sinceReset_flatMap_steps]
    exact (mem_sinceReset_flatMap_steps hwhole).mpr
      ⟨call, hcall, Call.internRequest_mem_steps ha hpoint⟩
  rw [applyAll_eq_after]
  exact (Store.keepsFirst_request call.sender.id).isSome_after hintern (if_pos rfl)

end Operation

end Telemetry
