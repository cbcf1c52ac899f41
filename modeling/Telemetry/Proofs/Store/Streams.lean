import Telemetry.Proofs.Store.Run

/-!
# The points of a stream

A stored stream holds the points that were committed for it since the last reset, all of them and
in the order of their steps.  `stream?_commitPoint` and `stream?_commitMetric` say what one step
does to a stream, also where a reset has removed its metric in the meantime, and `stream_of_run`
what comes of it in every run: the points of one call keep the order they have in its payload,
whatever other calls and resets come in between.
-/

namespace Telemetry

namespace Step

/-- The point that a step commits to a stream. -/
def pointIn? (m : MetricId) (st : StreamId) : Step → Option Point
  | .commitPoint identity _ _ attr point =>
    if identity.id = m ∧ Attributes.streamId attr = st then some point else none
  | _ => none

/-- The attributes that a step names a stream with. -/
def attrOf? (m : MetricId) (st : StreamId) : Step → Option Attributes
  | .commitPoint identity _ _ attr _ =>
    if identity.id = m ∧ Attributes.streamId attr = st then some attr else none
  | _ => none

theorem isSome_attrOf? (m : MetricId) (st : StreamId) (a : Step) :
    (a.attrOf? m st).isSome = (a.pointIn? m st).isSome := by
  cases a with
  | commitPoint => simp only [attrOf?, pointIn?]; split <;> rfl
  | _ => rfl

end Step

namespace Store

/-- The stored stream of a metric. -/
def stream? (s : Store) (m : MetricId) (st : StreamId) : Option MetricStream :=
  (s.metrics.get? m).bind fun metric => metric.streams.get? st

/-- The points of a stream, none if it is not stored. -/
def pointsOf (s : Store) (m : MetricId) (st : StreamId) : List Point :=
  ((s.stream? m st).map MetricStream.points).getD []

/-! ### One step -/

/-- The header of a metric does not touch its streams. -/
theorem stream?_commitMetric (s : Store) (identity : MetricIdentity) (description : String)
    (metadata : Attributes) (m : MetricId) (st : StreamId) :
    (s.commitMetric identity description metadata).stream? m st = s.stream? m st := by
  unfold stream? commitMetric
  by_cases hm : m = identity.id
  · rw [hm, Table.get?_upsert_self]
    cases s.metrics.get? identity.id with
    | none => rfl
    | some metric =>
      simp only [Option.bind_some, Metric.mergeHeader]
      split <;> rfl
  · rw [Table.get?_upsert_of_ne _ hm]

/-- A point is put behind the points of its stream, or it begins the stream. -/
theorem stream?_commitPoint (s : Store) (identity : MetricIdentity) (description : String)
    (metadata attr : Attributes) (point : Point) (m : MetricId) (st : StreamId) :
    (s.commitPoint identity description metadata attr point).stream? m st =
      if identity.id = m ∧ Attributes.streamId attr = st then
        match s.stream? m st with
        | some stream => some { stream with points := stream.points ++ [point] }
        | none => some ⟨attr, [point]⟩
      else s.stream? m st := by
  -- a metric that a reset has removed is made anew, and it has no streams either
  have hold : (((s.metrics.get? identity.id).getD
      (.new identity description metadata)).streams.get? st) = s.stream? identity.id st := by
    unfold stream?
    cases s.metrics.get? identity.id <;> rfl
  by_cases hm : identity.id = m
  · subst hm
    have hnew : (s.commitPoint identity description metadata attr point).stream? identity.id st =
        (((s.metrics.get? identity.id).getD (.new identity description metadata)).pushPoint attr
          point).streams.get? st := by
      rw [stream?, commitPoint, Table.get?_upsert_self, Option.bind_some]
    rw [hnew, Metric.pushPoint]
    by_cases hst : Attributes.streamId attr = st
    · subst hst
      rw [Table.get?_upsert_self, hold, if_pos ⟨rfl, rfl⟩]
      cases s.stream? identity.id (Attributes.streamId attr) <;> rfl
    · rw [Table.get?_upsert_of_ne _ (Ne.symm hst), hold, if_neg fun h => hst h.2]
  · rw [if_neg fun h => hm h.1, stream?, commitPoint, Table.get?_upsert_of_ne _ (Ne.symm hm)]
    rfl

theorem keepsAll_pointsOf (m : MetricId) (st : StreamId) :
    KeepsAll (fun s => s.pointsOf m st) (Step.pointIn? m st) where
  empty := rfl
  apply s a ha := by
    cases a with
    | commitPoint identity description metadata attr point =>
      change (s.commitPoint identity description metadata attr point).pointsOf m st = _
      rw [pointsOf, stream?_commitPoint, pointsOf, Step.pointIn?]
      split
      · cases s.stream? m st <;> rfl
      · exact (List.append_nil _).symm
    | commitMetric identity description metadata =>
      change (s.commitMetric identity description metadata).pointsOf m st = _
      rw [pointsOf, stream?_commitMetric]
      exact (List.append_nil _).symm
    | reset => cases ha
    | _ => exact (List.append_nil _).symm

/-- A stream has the attributes of its first point. -/
theorem keepsFirst_attr (m : MetricId) (st : StreamId) :
    KeepsFirst (fun s => (s.stream? m st).map MetricStream.attr) (Step.attrOf? m st) where
  empty := rfl
  apply s a ha := by
    cases a with
    | commitPoint identity description metadata attr point =>
      change ((s.commitPoint identity description metadata attr point).stream? m st).map _ = _
      rw [stream?_commitPoint, Step.attrOf?]
      split
      · cases s.stream? m st <;> rfl
      · exact Option.or_none.symm
    | commitMetric identity description metadata =>
      change ((s.commitMetric identity description metadata).stream? m st).map _ = _
      rw [stream?_commitMetric]
      exact Option.or_none.symm
    | reset => cases ha
    | _ => exact Option.or_none.symm

theorem pointsOf_after (steps : List Step) (m : MetricId) (st : StreamId) :
    (after steps).pointsOf m st = (Step.sinceReset steps).filterMap (Step.pointIn? m st) :=
  (keepsAll_pointsOf m st).after steps

theorem isSome_stream?_after {steps : List Step} {m : MetricId} {st : StreamId} :
    ((after steps).stream? m st).isSome ↔
      ∃ a ∈ Step.sinceReset steps, (a.pointIn? m st).isSome := by
  have := (keepsFirst_attr m st).after steps
  rw [← Option.isSome_map (f := MetricStream.attr), this, List.findSome?_isSome_iff]
  simp only [Step.isSome_attrOf?]

end Store

/-! ### What a payload delivers -/

namespace PreparedMetric

variable (p : PreparedMetric)

/-- A converted metric with the ids of where it comes from. -/
def withOrigin (origin : Origin) : PreparedMetric :=
  { p with
    identity := p.identityFrom origin
    points := p.points.map fun x => (x.1, x.2.deliveredBy origin.request) }

/-- The steps that commit a metric whose ids are known: one for its header and then, in order, one
for each of its points. -/
def commitSteps : List Step :=
  .commitMetric p.identity p.description p.metadata ::
    p.points.map fun x => .commitPoint p.identity p.description p.metadata x.1 x.2

/-- A metric is committed with the ids of where it comes from, and looked at in the end. -/
theorem commit_eq (origin : Origin) :
    p.commit origin =
      (p.withOrigin origin).commitSteps ++ [.showMetric (p.identityFrom origin).id] := by
  rw [commit, commitSteps, withOrigin, List.map_map]
  rfl

/-- The points that belong to a stream, in order. -/
def pointsUnder (m : MetricId) (st : StreamId) : List Point :=
  if p.identity.id = m then
    p.points.filterMap fun x => if Attributes.streamId x.1 = st then some x.2 else none
  else []

theorem filterMap_commitSteps (m : MetricId) (st : StreamId) :
    p.commitSteps.filterMap (Step.pointIn? m st) = p.pointsUnder m st := by
  have hpoints : p.commitSteps.filterMap (Step.pointIn? m st) =
      p.points.filterMap fun x =>
        if p.identity.id = m ∧ Attributes.streamId x.1 = st then some x.2 else none := by
    rw [commitSteps, List.filterMap_cons_none (by rfl), List.filterMap_map]
    rfl
  rw [hpoints, pointsUnder]
  by_cases hm : p.identity.id = m
  · simp only [hm, true_and, if_true]
  · simp only [hm, false_and, if_false, List.filterMap_none]

/-- The points of a converted metric that belong to a stream, in order. -/
def pointsFor (p : PreparedMetric) (origin : Origin) (m : MetricId)
    (st : StreamId) : List Point :=
  if (p.identityFrom origin).id = m then
    (p.points.filter fun (attr, _) => Attributes.streamId attr = st).map fun (_, point) =>
      point.deliveredBy origin.request
  else []

theorem pointsUnder_withOrigin (origin : Origin) (m : MetricId) (st : StreamId) :
    (p.withOrigin origin).pointsUnder m st = p.pointsFor origin m st := by
  rw [pointsUnder, pointsFor]
  refine if_congr Iff.rfl ?_ rfl
  rw [withOrigin, List.filterMap_map, ← List.filterMap_eq_map, List.filterMap_filter]
  simp only [Function.comp_def, decide_eq_true_eq]

theorem filterMap_commit (origin : Origin) (m : MetricId) (st : StreamId) :
    (p.commit origin).filterMap (Step.pointIn? m st) = p.pointsFor origin m st := by
  rw [commit_eq, List.filterMap_append, filterMap_commitSteps, pointsUnder_withOrigin]
  exact List.append_nil _

end PreparedMetric

/-- The points of a payload that belong to a stream, in the order of the payload. -/
def Call.pointsFor (call : Call) (m : MetricId) (st : StreamId) : List Point :=
  match call.payload with
  | .metrics request =>
    request.sent.flatMap fun x =>
      match x.item.prepare with
      | .ok p => p.pointsFor (x.origin call.sender) m st
      | .error _ => []
  | _ => []

/-- The steps of a call commit the points of its payload in their order. -/
theorem Call.filterMap_steps {call : Call} {steps : List Step}
    (h : call.payload.steps call.clock call.sender = .ok steps) (m : MetricId) (st : StreamId) :
    steps.filterMap (Step.pointIn? m st) = call.pointsFor m st := by
  have hintern (a : Step) (ha : a.isIntern = true) : a.pointIn? m st = none := by
    cases a <;> first | rfl | cases ha
  unfold Call.pointsFor
  cases hpayload : call.payload with
  | traces request | logs request =>
    rw [hpayload, Payload.steps] at h
    rw [Otlp.Export.filterMap_steps h hintern, List.flatMap_eq_nil_iff]
    intro x hx
    split <;> rfl
  | metrics request =>
    rw [hpayload, Payload.steps] at h
    rw [Otlp.Export.filterMap_steps h hintern]
    refine congrArg (List.flatMap · _) (funext fun x => ?_)
    cases x.item.prepare with
    | ok p => exact p.filterMap_commit _ m st
    | error e => rfl

/-- The points that a call commits to a stream are the first of those its payload has for it. -/
theorem Call.prefix_filterMap_steps (call : Call) (m : MetricId) (st : StreamId) :
    call.steps.filterMap (Step.pointIn? m st) <+: call.pointsFor m st := by
  unfold Call.steps
  cases h : call.payload.steps call.clock call.sender with
  | ok steps => exact (Call.filterMap_steps h m st) ▸ List.prefix_rfl
  | error e => exact List.nil_prefix

theorem Call.request_of_pointIn? {call : Call} {m : MetricId} {st : StreamId} {a : Step}
    {point : Point} (ha : a ∈ call.steps) (h : a.pointIn? m st = some point) :
    point.base.request = call.sender.id := by
  cases a with
  | commitPoint identity description metadata attr p =>
    obtain ⟨-, hp⟩ := Option.ite_none_right_eq_some.mp h
    obtain rfl := Option.some.inj hp
    obtain ⟨resource, scope, -, -, hrequest⟩ := Call.carries_of_mem ha rfl
    exact hrequest
  | _ => cases h

/-! ### Every run -/

namespace Run

variable {ι : Type} [DecidableEq ι] {calls : ι → Call} (run : Run calls)

/-- The points that a call has committed to a stream since the last reset, in order. -/
def pointsOfCall (i : ι) (m : MetricId) (st : StreamId) : List Point :=
  (Turn.stepsOf i run.recent).filterMap (Step.pointIn? m st)

theorem pointsOf_store (m : MetricId) (st : StreamId) :
    run.store.pointsOf m st =
      run.recent.filterMap fun turn => turn.toStep.pointIn? m st := by
  rw [store, Store.pointsOf_after, sinceReset_map_toStep, List.filterMap_map]
  rfl

theorem pointsOfCall_sublist (i : ι) (m : MetricId) (st : StreamId) :
    (run.pointsOfCall i m st).Sublist (run.store.pointsOf m st) := by
  rw [store, Store.pointsOf_after, sinceReset_map_toStep]
  exact (Turn.stepsOf_sublist i run.recent).filterMap _

theorem pointsOfCall_infix (i : ι) (m : MetricId) (st : StreamId) :
    run.pointsOfCall i m st <:+: (calls i).pointsFor m st := by
  have hrecent : Turn.stepsOf i run.recent <:+: (calls i).steps :=
    ((List.rtakeWhile_suffix _ _).filterMap _).isInfix.trans (run.inOrder i).isInfix
  exact (hrecent.filterMap _).trans ((calls i).prefix_filterMap_steps m st).isInfix

theorem request_of_mem_pointsOfCall {i : ι} {m : MetricId} {st : StreamId} {point : Point}
    (h : point ∈ run.pointsOfCall i m st) : point.base.request = (calls i).sender.id := by
  obtain ⟨a, ha, hpoint⟩ := List.mem_filterMap.mp h
  have hturn := run.mem_turns_of_mem_recent (Turn.mem_stepsOf.mp ha)
  exact Call.request_of_pointIn? (run.mem_steps_of_mem_turns hturn) hpoint

theorem mem_pointsOf_store {m : MetricId} {st : StreamId} {point : Point} :
    point ∈ run.store.pointsOf m st ↔ ∃ i, point ∈ run.pointsOfCall i m st := by
  rw [store, Store.pointsOf_after, sinceReset_map_toStep, List.mem_filterMap]
  constructor
  · rintro ⟨a, ha, hpoint⟩
    obtain ⟨i, hi⟩ := run.mem_map_toStep_recent.mp ha
    exact ⟨i, List.mem_filterMap.mpr ⟨a, Turn.mem_stepsOf.mpr hi, hpoint⟩⟩
  · rintro ⟨i, hpoint⟩
    obtain ⟨a, ha, hpoint⟩ := List.mem_filterMap.mp hpoint
    exact ⟨a, run.mem_map_toStep_recent.mpr ⟨i, Turn.mem_stepsOf.mp ha⟩, hpoint⟩

/-- **No point is lost, repeated or moved, whatever the order of turns.**  A stream is stored iff a
point was committed to it since the last reset, and then it holds the points of all these steps in
the order of the steps.  Those that one call has committed are a stretch of the points that its
payload has for the stream, in the payload's order, and they are all of them if the call has been
accepted and has taken all its steps since the reset.  Each stored point is of some call, and names
the request of that call. -/
theorem stream_of_run (m : MetricId) (st : StreamId) :
    ((run.store.stream? m st).isSome ↔
      ∃ turn ∈ run.recent, (turn.toStep.pointIn? m st).isSome) ∧
    (∀ stream, run.store.stream? m st = some stream →
      stream.points = run.recent.filterMap (fun turn => turn.toStep.pointIn? m st) ∧
      (∀ point ∈ stream.points, ∃ i, point ∈ run.pointsOfCall i m st) ∧
      ∀ i, (run.pointsOfCall i m st).Sublist stream.points) ∧
    ∀ i,
      run.pointsOfCall i m st <:+: (calls i).pointsFor m st ∧
      ((calls i).payload.steps (calls i).clock (calls i).sender = .ok (Turn.stepsOf i run.recent) →
        run.pointsOfCall i m st = (calls i).pointsFor m st) ∧
      ∀ point ∈ run.pointsOfCall i m st, point.base.request = (calls i).sender.id := by
  refine ⟨?_, fun stream hstream => ?_, fun i => ⟨run.pointsOfCall_infix i m st, fun hall => ?_,
    fun point hpoint => run.request_of_mem_pointsOfCall hpoint⟩⟩
  · rw [store, Store.isSome_stream?_after, sinceReset_map_toStep]
    constructor
    · rintro ⟨a, ha, hpoint⟩
      obtain ⟨turn, hturn, rfl⟩ := List.mem_map.mp ha
      exact ⟨turn, hturn, hpoint⟩
    · rintro ⟨turn, hturn, hpoint⟩
      exact ⟨_, List.mem_map_of_mem hturn, hpoint⟩
  · have hpoints : run.store.pointsOf m st = stream.points := by
      rw [Store.pointsOf, hstream]
      rfl
    rw [← hpoints]
    exact ⟨run.pointsOf_store m st, fun point hpoint => run.mem_pointsOf_store.mp hpoint,
      fun i => run.pointsOfCall_sublist i m st⟩
  · exact Call.filterMap_steps hall m st

end Run

end Telemetry
