import Telemetry.Proofs.Store.Independence

/-!
# What does not depend on the sender

One payload, delivered to one store by two senders, leads to two stores.  `Store.Corresponds` says
how they are related to the store before and to each other: the requests have one more each, and
all else is the same but for the request of the records that the delivery added, which is the
sender's own.

The steps of the two deliveries correspond one by one (`Delivery.exists_corresponding_steps`).
Steps that correspond keep the relation and warn about the same (`Store.Corresponds.apply`,
`Store.Corresponds.warnings_eq`), so a whole delivery does (`Delivery.corresponds_applyAll`).
-/

namespace Telemetry

/-! ### Two runs over one table -/

/-- Under a key there is a value in both runs or in neither.  Two values are related to each other
and to the value that the key had before; where there is none, there was none before. -/
inductive InBoth {α : Type} (R : Option α → α → α → Prop) :
    Option α → Option α → Option α → Prop where
  | absent : InBoth R none none none
  | present {old : Option α} {x y : α} : R old x y → InBoth R old (some x) (some y)

section InBoth

variable {κ α : Type} {cmp : κ → κ → Ordering} {R : Option α → α → α → Prop}

theorem InBoth.refl (h : ∀ x, R (some x) x x) (old : Option α) : InBoth R old old old := by
  cases old with
  | none => exact .absent
  | some x => exact .present (h x)

theorem InBoth.absent_or_present {old x y : Option α} (h : InBoth R old x y) :
    (x = none ∧ y = none) ∨ ∃ a b, x = some a ∧ y = some b ∧ R old a b := by
  cases h with
  | absent => exact .inl ⟨rfl, rfl⟩
  | present hR => exact .inr ⟨_, _, rfl, rfl, hR⟩

/-- Changes of one key that give it related values lead to related tables. -/
theorem InBoth.upsert [Std.TransCmp cmp] [Std.LawfulEqCmp cmp] [DecidableEq κ] {old : κ → Option α}
    {t u : Table cmp α} (h : ∀ k, InBoth R (old k) (t.get? k) (u.get? k)) {key : κ}
    {f g : Option α → α} (hnew : R none (f none) (g none))
    (hold : ∀ x y, R (old key) x y → R (old key) (f (some x)) (g (some y))) (k : κ) :
    InBoth R (old k) ((t.upsert key f).get? k) ((u.upsert key g).get? k) := by
  by_cases hk : k = key
  · subst hk
    rw [Table.get?_upsert_self, Table.get?_upsert_self]
    have hkey := h k
    revert hkey hold
    generalize old k = o, t.get? k = x, u.get? k = y
    intro hold hkey
    cases hkey with
    | absent => exact .present hnew
    | present hR => exact .present (hold _ _ hR)
  · rw [Table.get?_upsert_of_ne t hk, Table.get?_upsert_of_ne u hk]
    exact h k

end InBoth

/-- Two lists go on from the same old one with the same records, each as delivered by the request of
its run. -/
def GrewAlike {α : Type} (deliveredBy : RequestId → α → α) (a b : RequestId)
    (old xs ys : List α) : Prop :=
  ∃ added : List α, xs = old ++ added.map (deliveredBy a) ∧ ys = old ++ added.map (deliveredBy b)

section GrewAlike

variable {α : Type} {deliveredBy : RequestId → α → α} {a b : RequestId} {old xs ys : List α}

theorem GrewAlike.refl (old : List α) : GrewAlike deliveredBy a b old old old :=
  ⟨[], by simp, by simp⟩

theorem GrewAlike.concat (h : GrewAlike deliveredBy a b old xs ys) (x : α) :
    GrewAlike deliveredBy a b old (xs ++ [deliveredBy a x]) (ys ++ [deliveredBy b x]) := by
  obtain ⟨added, rfl, rfl⟩ := h
  exact ⟨added ++ [x], by simp, by simp⟩

end GrewAlike

/-! ### Records of two runs -/

/-- The span as delivered by the given request. -/
def Span.deliveredBy (request : RequestId) (span : Span) : Span :=
  { span with origin := { span.origin with request } }

/-- The log record as delivered by the given request. -/
def LogRecord.deliveredBy (request : RequestId) (log : LogRecord) : LogRecord :=
  { log with origin := { log.origin with request } }

section Records

variable (a b : RequestId)

/-- A span that was there stays in both runs.  One that is new is the same in both, as delivered by
the request of the run. -/
inductive Span.Corresponds : Option Span → Span → Span → Prop where
  | kept (span : Span) : Span.Corresponds (some span) span span
  | added (span : Span) : Span.Corresponds none (span.deliveredBy a) (span.deliveredBy b)

/-- A trace has the same spans in both runs. -/
def Trace.Corresponds (old : Option Trace) (x y : Trace) : Prop :=
  ∀ id, InBoth (Span.Corresponds a b) (old.bind (·.get? id)) (x.get? id) (y.get? id)

/-- A stream has the same attributes in both runs, and the same points behind those that it had. -/
structure MetricStream.Corresponds (old : Option MetricStream) (x y : MetricStream) : Prop where
  attr : x.attr = y.attr
  points : GrewAlike Point.deliveredBy a b ((old.map MetricStream.points).getD []) x.points y.points

/-- A metric has the same identity and header in both runs, and its streams correspond. -/
structure Metric.Corresponds (old : Option Metric) (x y : Metric) : Prop where
  identity : x.identity = y.identity
  description : x.description = y.description
  metadata : x.metadata = y.metadata
  conflict : x.conflict = y.conflict
  streams : ∀ id, InBoth (MetricStream.Corresponds a b) (old.bind (·.streams.get? id))
    (x.streams.get? id) (y.streams.get? id)

end Records

/-- Two stores that come from one store `s` by one delivery, from the sender `a` and from the sender
`b`.  Each has its sender among the requests.  All else is the same but for the requests of the
records that are not in `s`. -/
structure Store.Corresponds (s : Store) (a b : RequestMeta) (t u : Store) : Prop where
  requestsLeft : t.requests = s.requests.insertIfNew a.id a
  requestsRight : u.requests = s.requests.insertIfNew b.id b
  resources : t.resources = u.resources
  scopes : t.scopes = u.scopes
  traces : ∀ id, InBoth (Trace.Corresponds a.id b.id) (s.traces.get? id) (t.traces.get? id)
    (u.traces.get? id)
  logs : GrewAlike LogRecord.deliveredBy a.id b.id s.logs.toList t.logs.toList u.logs.toList
  metrics : ∀ id, InBoth (Metric.Corresponds a.id b.id) (s.metrics.get? id) (t.metrics.get? id)
    (u.metrics.get? id)

section Changes

variable {a b : RequestId}

theorem Trace.Corresponds.refl (x : Trace) : Trace.Corresponds a b (some x) x x :=
  fun id => InBoth.refl Span.Corresponds.kept (x.get? id)

theorem Metric.Corresponds.refl (x : Metric) : Metric.Corresponds a b (some x) x x where
  identity := rfl
  description := rfl
  metadata := rfl
  conflict := rfl
  streams id := InBoth.refl (fun stream => ⟨rfl, .refl stream.points⟩) (x.streams.get? id)

/-- The first span of an id stays, whoever delivers the next one. -/
theorem Trace.Corresponds.insertIfNew {old : Option Trace} {x y : Trace}
    (h : Trace.Corresponds a b old x y) (id : SpanId) (span : Span) :
    Trace.Corresponds a b old (x.insertIfNew id (span.deliveredBy a))
      (y.insertIfNew id (span.deliveredBy b)) :=
  InBoth.upsert h (.added span) fun _ _ hspan => hspan

theorem Metric.Corresponds.new (identity : MetricIdentity) (description : String)
    (metadata : Attributes) :
    Metric.Corresponds a b none (.new identity description metadata)
      (.new identity description metadata) where
  identity := rfl
  description := rfl
  metadata := rfl
  conflict := rfl
  streams _ := .absent

theorem Metric.Corresponds.hasHeader_eq {old : Option Metric} {x y : Metric}
    (h : Metric.Corresponds a b old x y) (description : String) (metadata : Attributes) :
    x.hasHeader description metadata = y.hasHeader description metadata := by
  unfold Metric.hasHeader
  rw [h.description, h.metadata]

theorem Metric.Corresponds.isFirstConflict_eq {old : Option Metric} {x y : Metric}
    (h : Metric.Corresponds a b old x y) (description : String) (metadata : Attributes) :
    x.isFirstConflict description metadata = y.isFirstConflict description metadata := by
  unfold Metric.isFirstConflict
  rw [h.hasHeader_eq, h.conflict]

theorem Metric.Corresponds.mergeHeader {old : Option Metric} {x y : Metric}
    (h : Metric.Corresponds a b old x y) (description : String) (metadata : Attributes) :
    Metric.Corresponds a b old (x.mergeHeader description metadata)
      (y.mergeHeader description metadata) := by
  unfold Metric.mergeHeader
  rw [h.hasHeader_eq]
  split
  · exact h
  · exact { h with
      description := by rw [h.description]
      conflict := rfl }

theorem Metric.Corresponds.pushPoint {old : Option Metric} {x y : Metric}
    (h : Metric.Corresponds a b old x y) (attr : Attributes) (point : Point) :
    Metric.Corresponds a b old (x.pushPoint attr (point.deliveredBy a))
      (y.pushPoint attr (point.deliveredBy b)) := by
  refine { h with streams := InBoth.upsert h.streams ?_ fun stream stream' hstream => ?_ }
  · exact ⟨rfl, (GrewAlike.refl []).concat point⟩
  · exact ⟨hstream.attr, hstream.points.concat point⟩

end Changes

/-! ### Steps of two runs -/

/-- Two steps do the same, each for the request of its run. -/
inductive Step.Corresponds (a b : RequestId) : Step → Step → Prop where
  | internResource (r : Resource) : Step.Corresponds a b (.internResource r) (.internResource r)
  | internScope (c : Scope) : Step.Corresponds a b (.internScope c) (.internScope c)
  | commitSpan (ref : SpanRef) (span : Span) : Step.Corresponds a b
      (.commitSpan ref (span.deliveredBy a)) (.commitSpan ref (span.deliveredBy b))
  | commitLog (log : LogRecord) : Step.Corresponds a b
      (.commitLog (log.deliveredBy a)) (.commitLog (log.deliveredBy b))
  | commitMetric (identity : MetricIdentity) (description : String) (metadata : Attributes) :
      Step.Corresponds a b (.commitMetric identity description metadata)
        (.commitMetric identity description metadata)
  | commitPoint (identity : MetricIdentity) (description : String) (metadata attr : Attributes)
      (point : Point) : Step.Corresponds a b
        (.commitPoint identity description metadata attr (point.deliveredBy a))
        (.commitPoint identity description metadata attr (point.deliveredBy b))
  | showMetric (id : MetricId) : Step.Corresponds a b (.showMetric id) (.showMetric id)

namespace Store.Corresponds

variable {s t u : Store} {a b : RequestMeta} {x y : Step}

/-- Both runs begin by interning their sender. -/
theorem start (s : Store) (a b : RequestMeta) :
    s.Corresponds a b (s.internRequest a) (s.internRequest b) where
  requestsLeft := rfl
  requestsRight := rfl
  resources := rfl
  scopes := rfl
  traces id := InBoth.refl Trace.Corresponds.refl (s.traces.get? id)
  logs := .refl s.logs.toList
  metrics id := InBoth.refl Metric.Corresponds.refl (s.metrics.get? id)

theorem isSome_span?_eq (h : s.Corresponds a b t u) (ref : SpanRef) :
    (t.span? ref).isSome = (u.span? ref).isSome := by
  unfold Store.span?
  rcases (h.traces ref.trace).absent_or_present with ⟨ht, hu⟩ | ⟨trace, trace', ht, hu, htrace⟩
  · rw [ht, hu]
  · rw [ht, hu, Option.bind_some, Option.bind_some]
    rcases (htrace ref.span).absent_or_present with ⟨hx, hy⟩ | ⟨_, _, hx, hy, -⟩
    · rw [hx, hy]
    · rw [hx, hy]
      rfl

/-- **Steps that correspond keep what corresponds.** -/
theorem apply (h : s.Corresponds a b t u) (hstep : Step.Corresponds a.id b.id x y) :
    s.Corresponds a b (x.apply t) (y.apply u) := by
  cases hstep with
  | internResource r =>
    exact { h with resources := congrArg (fun table => table.insertIfNew r.id r) h.resources }
  | internScope c =>
    exact { h with scopes := congrArg (fun table => table.insertIfNew c.id c) h.scopes }
  | commitSpan ref span =>
    -- a trace that is new in both runs starts without spans
    have hempty : Trace.Corresponds a.id b.id none .empty .empty := fun _ => .absent
    exact { h with
      traces := InBoth.upsert h.traces (hempty.insertIfNew ref.span span) fun _ _ htrace =>
        htrace.insertIfNew ref.span span }
  | commitLog log =>
    have hlogs := h.logs.concat log
    rw [← Array.toList_push, ← Array.toList_push] at hlogs
    exact { h with logs := hlogs }
  | commitMetric identity description metadata =>
    exact { h with
      metrics := InBoth.upsert h.metrics (.new identity description metadata) fun _ _ hmetric =>
        hmetric.mergeHeader description metadata }
  | commitPoint identity description metadata attr point =>
    have hnew := Metric.Corresponds.new (a := a.id) (b := b.id) identity description metadata
    exact { h with
      metrics := InBoth.upsert h.metrics (hnew.pushPoint attr point) fun _ _ hmetric =>
        hmetric.pushPoint attr point }
  | showMetric id => exact h

/-- **Steps that correspond warn about the same.**  So the spans that are dropped and the metrics
that are marked are the same in both runs. -/
theorem warnings_eq (h : s.Corresponds a b t u) (hstep : Step.Corresponds a.id b.id x y) :
    x.warnings t = y.warnings u := by
  cases hstep with
  | commitSpan ref span =>
    show (if (t.span? ref).isSome then _ else _) = if (u.span? ref).isSome then _ else _
    rw [h.isSome_span?_eq ref]
  | commitMetric identity description metadata =>
    simp only [Step.warnings]
    rcases (h.metrics identity.id).absent_or_present with ⟨ht, hu⟩ | ⟨_, _, ht, hu, hmetric⟩
    · rw [ht, hu]
    · rw [ht, hu]
      dsimp only
      rw [hmetric.isFirstConflict_eq]
  | _ => rfl

/-- What holds of one step holds of a whole run. -/
theorem applyAll {xs ys : List Step} (h : s.Corresponds a b t u)
    (hsteps : List.Forall₂ (Step.Corresponds a.id b.id) xs ys) :
    s.Corresponds a b (Step.applyAll t xs) (Step.applyAll u ys) ∧
      Step.allWarnings t xs = Step.allWarnings u ys := by
  induction hsteps generalizing t u with
  | nil => exact ⟨h, rfl⟩
  | cons hstep _ ih =>
    obtain ⟨hrest, hwarnings⟩ := ih (h.apply hstep)
    refine ⟨hrest, ?_⟩
    rw [Step.allWarnings, Step.allWarnings, h.warnings_eq hstep, hwarnings]

end Store.Corresponds

/-! ### Deliveries of two senders -/

theorem forall₂_flatMap {α β : Type} {R : β → β → Prop} {xs : List α} {f g : α → List β}
    (h : ∀ x, List.Forall₂ R (f x) (g x)) : List.Forall₂ R (xs.flatMap f) (xs.flatMap g) := by
  refine List.rel_flatMap (R := Eq) (List.forall₂_same.mpr fun _ _ => rfl) ?_
  rintro x _ rfl
  exact h x

theorem Batch.exists_corresponding_steps {α : Type} {commit : Origin → α → List Step}
    (a b : RequestMeta)
    (h : ∀ resource scope item, List.Forall₂ (Step.Corresponds a.id b.id)
      (commit ⟨a.id, resource, scope⟩ item) (commit ⟨b.id, resource, scope⟩ item))
    (batch : Batch α) :
    ∃ xs ys, batch.steps commit a = .internRequest a :: xs ∧
      batch.steps commit b = .internRequest b :: ys ∧
      List.Forall₂ (Step.Corresponds a.id b.id) xs ys := by
  refine ⟨_, _, rfl, rfl, forall₂_flatMap fun group => ?_⟩
  refine .cons (.internResource group.resource) (forall₂_flatMap fun scope => ?_)
  exact .cons (.internScope scope.scope) (forall₂_flatMap fun item => h _ _ item)

section Commit

variable {a b : RequestId} (resource : ResourceId) (scope : ScopeId)

theorem PreparedSpan.corresponding_commit (p : PreparedSpan) :
    List.Forall₂ (Step.Corresponds a b) (p.commit ⟨a, resource, scope⟩)
      (p.commit ⟨b, resource, scope⟩) :=
  .cons (.commitSpan p.ref { p.span with origin := ⟨.zero, resource, scope⟩ }) .nil

theorem LogRecord.corresponding_commit (log : LogRecord) :
    List.Forall₂ (Step.Corresponds a b) (log.commit ⟨a, resource, scope⟩)
      (log.commit ⟨b, resource, scope⟩) :=
  .cons (.commitLog { log with origin := ⟨.zero, resource, scope⟩ }) .nil

theorem PreparedMetric.corresponding_commit (p : PreparedMetric) :
    List.Forall₂ (Step.Corresponds a b) (p.commit ⟨a, resource, scope⟩)
      (p.commit ⟨b, resource, scope⟩) := by
  have hidentity : p.identityFrom ⟨a, resource, scope⟩ = p.identityFrom ⟨b, resource, scope⟩ := rfl
  unfold PreparedMetric.commit
  rw [← hidentity]
  refine .cons (.commitMetric _ p.description p.metadata) (List.rel_append ?_ ?_)
  · rw [List.forall₂_map_left_iff, List.forall₂_map_right_iff, List.forall₂_same]
    rintro ⟨attr, point⟩ -
    exact .commitPoint _ p.description p.metadata attr point
  · exact .cons (.showMetric _) .nil

end Commit

/-- **Two senders of one batch take the same steps**, each for its own request. -/
theorem Delivery.exists_corresponding_steps (a b : RequestMeta) (batch : PreparedBatch) :
    ∃ xs ys, (Delivery.mk a batch).steps = .internRequest a :: xs ∧
      (Delivery.mk b batch).steps = .internRequest b :: ys ∧
      List.Forall₂ (Step.Corresponds a.id b.id) xs ys := by
  cases batch with
  | traces batch =>
    exact batch.exists_corresponding_steps a b PreparedSpan.corresponding_commit
  | logs batch =>
    exact batch.exists_corresponding_steps a b LogRecord.corresponding_commit
  | metrics batch =>
    exact batch.exists_corresponding_steps a b PreparedMetric.corresponding_commit

/-- **A delivery leads to stores that correspond, whoever its sender is**, and warns about the
same. -/
theorem Delivery.corresponds_applyAll (s : Store) (a b : RequestMeta) (batch : PreparedBatch) :
    s.Corresponds a b (Step.applyAll s (Delivery.mk a batch).steps)
        (Step.applyAll s (Delivery.mk b batch).steps) ∧
      Step.allWarnings s (Delivery.mk a batch).steps =
        Step.allWarnings s (Delivery.mk b batch).steps := by
  obtain ⟨xs, ys, hxs, hys, hsteps⟩ := Delivery.exists_corresponding_steps a b batch
  rw [hxs, hys]
  exact (Store.Corresponds.start s a b).applyAll hsteps

/-! ### Payloads of two senders -/

namespace Store

/-- Whether a payload is taken in is up to its conversion, in which the sender plays no part. -/
theorem ingest_eq (s : Store) (clock : Clock) (payload : Payload) (sender : RequestMeta) :
    s.ingest clock payload sender =
      match payload.prepare clock with
      | .ok batch =>
        (.ok (), (Effect.ofSteps s (Delivery.mk sender batch).steps).after payload.warnings)
      | .error e => (.error e, (Effect.none s).after payload.warnings) := by
  unfold ingest
  rw [Payload.steps_eq]
  cases payload.prepare clock <;> rfl

/-- **A payload is refused from every sender or from none**, and where it is taken in, the stores
correspond and the warnings are the same. -/
theorem ingest_senders (s : Store) (clock : Clock) (payload : Payload) :
    (∃ e, ∀ sender, s.ingest clock payload sender =
      (.error e, (Effect.none s).after payload.warnings)) ∨
    ((∀ sender, (s.ingest clock payload sender).1 = .ok ()) ∧
      ∀ a b, s.Corresponds a b (s.ingest clock payload a).2.store
          (s.ingest clock payload b).2.store ∧
        (s.ingest clock payload a).2.warnings = (s.ingest clock payload b).2.warnings) := by
  cases hprepare : payload.prepare clock with
  | error e =>
    refine .inl ⟨e, fun sender => ?_⟩
    rw [ingest_eq, hprepare]
  | ok batch =>
    refine .inr ⟨fun sender => ?_, fun a b => ?_⟩
    · rw [ingest_eq, hprepare]
    · obtain ⟨hstores, hwarnings⟩ := Delivery.corresponds_applyAll s a b batch
      rw [ingest_eq, ingest_eq, hprepare]
      exact ⟨hstores, congrArg (payload.warnings ++ ·) hwarnings⟩

end Store

end Telemetry
