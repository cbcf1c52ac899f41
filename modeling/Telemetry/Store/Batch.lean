import Telemetry.Otlp.Conversion
import Telemetry.Otlp.Names
import Telemetry.Store.Step

/-!
# Batches

An export request is converted as a whole before anything is stored: the outcome is a batch, or
the error of the first id that has the wrong length. A batch is then a run of steps: the request
is interned, then each resource, under it each scope, and under that scope its items.
-/

namespace Telemetry

/-- The converted items of one scope. -/
structure ScopeGroup (α : Type) where
  scope : Scope
  items : List α

/-- The converted items of one resource. -/
structure ResourceGroup (α : Type) where
  resource : Resource
  scopes : List (ScopeGroup α)

/-- A converted export request. -/
structure Batch (α : Type) where
  groups : List (ResourceGroup α)

/-- A converted span. Its origin is not known yet. -/
structure PreparedSpan where
  ref : SpanRef
  span : Span

/-- A converted metric. Neither the ids in its identity nor the request of its points are known
yet. -/
structure PreparedMetric where
  identity : MetricIdentity
  description : String
  metadata : Attributes
  points : List (Attributes × Point)

namespace Batch

variable {α : Type}

/-- The number of items in each scope of each resource. -/
def shape (batch : Batch α) : List (List Nat) :=
  batch.groups.map fun group => group.scopes.map fun s => s.items.length

/-- The items in order. -/
def items (batch : Batch α) : List α :=
  batch.groups.flatMap fun group => group.scopes.flatMap ScopeGroup.items

/-- The number of items. -/
def length (batch : Batch α) : Nat :=
  batch.items.length

/-- The steps that store a batch received with the given request metadata. -/
def steps (commit : Origin → α → List Step) (request : RequestMeta) (batch : Batch α) :
    List Step :=
  .internRequest request :: batch.groups.flatMap fun group =>
    .internResource group.resource :: group.scopes.flatMap fun s =>
      .internScope s.scope ::
        s.items.flatMap (commit ⟨request.id, group.resource.id, s.scope.id⟩)

end Batch

/-- What the clock tells while a payload is converted. It is read anew for every log record that has
no time of its own, so the readings of one payload may differ, and later ones need not be larger. -/
structure Clock where
  /-- The reading for a log record by its place in the payload: the number of its resource, of its
  scope under the resource, and its own under the scope. -/
  reading : Nat → Nat → Nat → UInt64

/-- The clock tells this time at some place. -/
def Clock.Tells (clock : Clock) (now : UInt64) : Prop :=
  ∃ i j k, clock.reading i j k = now

/-- A numeral stands for the clock that always tells this time. -/
instance (n : Nat) : OfNat Clock n where
  ofNat := ⟨fun _ _ _ => OfNat.ofNat n⟩

namespace Otlp

/-- The stored form of a resource. A missing resource is one without attributes. -/
def resourceRecord (resource : Option Resource) (schema : String) : Telemetry.Resource :=
  match resource with
  | some r => ⟨KeyValue.toAttributes r.attributes, r.dropped, schema⟩
  | none => { Telemetry.Resource.empty with schema }

/-- The stored form of a scope. A missing scope is one without name and attributes. -/
def scopeRecord (scope : Option Scope) (schema : String) : Telemetry.Scope :=
  match scope with
  | some s => ⟨s.name, s.version, KeyValue.toAttributes s.attributes, s.dropped, schema⟩
  | none => { Telemetry.Scope.empty with schema }

namespace Export

variable {ι α : Type}

/-- Converts every item of an export request, in order, up to the first that fails. -/
def toBatch (convert : ι → Except Error α) (request : Export ι) : Except Error (Batch α) := do
  let groups ← request.resources.mapM fun r => do
    let scopes ← r.scopes.mapM fun s => do
      let items ← s.items.mapM convert
      pure (ScopeGroup.mk (scopeRecord s.scope s.schema) items)
    pure (ResourceGroup.mk (resourceRecord r.resource r.schema) scopes)
  pure ⟨groups⟩

/-- The items of an export request in order. -/
def items (request : Export ι) : List ι :=
  request.resources.flatMap fun r => r.scopes.flatMap ScopeItems.items

/-- The request with another item in the place of each. -/
def map {κ : Type} (f : ι → κ) (request : Export ι) : Export κ where
  resources := request.resources.map fun r =>
    { r with scopes := r.scopes.map fun s => { s with items := s.items.map f } }

theorem items_map {κ : Type} (f : ι → κ) (request : Export ι) :
    (request.map f).items = request.items.map f := by
  simp only [items, map, List.flatMap_map, List.map_flatMap]

end Export

/-- The stored form of an event. -/
def Event.toRecord (e : Event) : SpanEvent :=
  ⟨e.name, e.time, KeyValue.toAttributes e.attributes, e.dropped⟩

/-- The stored form of a link. -/
def Link.toRecord (l : Link) : Except Error SpanLink := do
  let trace ← Id.ofBytes l.trace
  let span ← Id.ofBytes l.span
  pure ⟨⟨trace, span⟩, KeyValue.toAttributes l.attributes, l.dropped, l.state⟩

/-- Converts a span: its links first, then its own ids. -/
def Span.prepare (s : Span) : Except Error PreparedSpan := do
  -- The order matters: it decides which of several malformed ids is reported.
  let links ← s.links.mapM Link.toRecord
  let trace ← Id.ofBytes s.trace
  let span ← Id.ofBytes s.span
  let parent ← Id.ofBytes s.parent
  let status := match s.status with
    | some status => statusName status.code
    | none => ""
  let statusMessage := match s.status with
    | some status => status.message
    | none => ""
  pure
    { ref := ⟨trace, span⟩
      span :=
        { origin := default
          summary := ⟨parent, s.name, status, s.start, s.finish⟩
          kind := kindName s.kind
          statusMessage
          attr := KeyValue.toAttributes s.attributes
          dropped := s.dropped
          state := s.state
          flags := s.flags
          events := s.events.map Event.toRecord
          eventsDropped := s.eventsDropped
          links
          linksDropped := s.linksDropped } }

/-- Converts a log record, with its summary. -/
def LogRecord.prepare (now : UInt64) (l : LogRecord) : Except Error Telemetry.LogRecord := do
  let trace ← Id.ofBytes l.trace
  let span ← Id.ofBytes l.span
  pure <| Telemetry.LogRecord.summarize now
    { summary := ⟨severityName l.severity, 0, ""⟩
      origin := default
      time := l.time
      observedTime := l.observedTime
      severityText := l.severityText
      event := l.event
      body := l.body.toValue?
      attr := KeyValue.toAttributes l.attributes
      dropped := l.dropped
      flags := l.flags
      trace
      span }

/-- A log record with what the clock tells when it is converted. -/
structure TimedLog where
  now : UInt64
  record : LogRecord

/-- Converts a log record by its own reading of the clock. -/
def TimedLog.prepare (l : TimedLog) : Except Error Telemetry.LogRecord :=
  l.record.prepare l.now

/-- The log records of a request, each with the reading of the clock at its place. -/
def LogExport.timed (clock : Clock) (request : LogExport) : Export TimedLog where
  resources := request.resources.mapIdx fun i r =>
    { r with scopes := r.scopes.mapIdx fun j s =>
      { s with items := s.items.mapIdx fun k record => ⟨clock.reading i j k, record⟩ } }

theorem map_mapIdx_eq_self {α β : Type} {f : Nat → α → β} {g : β → α} (hg : ∀ i a, g (f i a) = a)
    (xs : List α) : (xs.mapIdx f).map g = xs := by
  refine List.ext_getElem (by simp) fun i _ _ => ?_
  rw [List.getElem_map, List.getElem_mapIdx, hg]

/-- Without the readings the request is as it was sent. -/
theorem LogExport.map_record_timed (clock : Clock) (request : LogExport) :
    (request.timed clock).map TimedLog.record = request := by
  refine congrArg Export.mk (map_mapIdx_eq_self (fun i r => ?_) request.resources)
  refine congrArg (ResourceItems.mk r.resource · r.schema) ?_
  refine map_mapIdx_eq_self (fun j s => ?_) r.scopes
  exact congrArg (ScopeItems.mk s.scope · s.schema) (map_mapIdx_eq_self (fun _ _ => rfl) s.items)

/-- What a stored point has of a data point. The request is not known yet. -/
def PointBase.toRecord (b : PointBase) : Telemetry.PointBase :=
  ⟨b.time, b.start, b.flags, .zero⟩

/-- The stored form of an exemplar. -/
def Exemplar.toRecord (e : Exemplar) : Except Error Telemetry.Exemplar := do
  let trace ← Id.ofBytes e.trace
  let span ← Id.ofBytes e.span
  pure ⟨e.time, e.value.map Number.toValue, KeyValue.toAttributes e.attributes, ⟨trace, span⟩⟩

/-- The stored form of what both kinds of histogram have. -/
def Distribution.toRecord (d : Distribution) : Except Error Telemetry.Distribution := do
  let exemplars ← d.exemplars.mapM Exemplar.toRecord
  pure ⟨d.base.toRecord, d.count, d.sum, d.min, d.max, exemplars⟩

/-- The stored form of a point of a gauge or of a sum. -/
def NumberPoint.toRecord (p : NumberPoint) : Except Error Point := do
  let exemplars ← p.exemplars.mapM Exemplar.toRecord
  pure (.number ⟨p.base.toRecord, p.value.map Number.toValue, exemplars⟩)

/-- The stored form of a point of a histogram. -/
def HistogramPoint.toRecord (p : HistogramPoint) : Except Error Point := do
  let distribution ← p.distribution.toRecord
  pure (.histogram ⟨distribution, p.buckets, p.bounds⟩)

/-- The stored form of buckets. Missing buckets are none at offset zero. -/
def Buckets.toRecord (buckets : Option Buckets) : ExponentialBuckets :=
  match buckets with
  | some b => ⟨b.offset, b.counts⟩
  | none => ⟨0, []⟩

/-- The stored form of a point of an exponential histogram. -/
def ExponentialPoint.toRecord (p : ExponentialPoint) : Except Error Point := do
  let distribution ← p.distribution.toRecord
  pure (.exponential
    ⟨distribution, p.scale, p.zeroCount, p.zeroThreshold, Buckets.toRecord p.positive,
      Buckets.toRecord p.negative⟩)

/-- The stored form of a point of a summary. -/
def SummaryPoint.toRecord (p : SummaryPoint) : Except Error Point :=
  .ok (.summary
    ⟨p.base.toRecord, p.count, p.sum, p.quantiles.map fun q => ⟨q.quantile, q.value⟩⟩)

/-- Converts points in order, each with the attributes that name its stream. -/
def preparePoints {π : Type} (base : π → PointBase) (convert : π → Except Error Point)
    (points : List π) : Except Error (List (Attributes × Point)) :=
  points.mapM fun p => do
    let point ← convert p
    pure (KeyValue.toAttributes (base p).attributes, point)

namespace MetricData

/-- The name of the type of data. -/
def kind : MetricData → String
  | .gauge _ => "Gauge"
  | .sum .. => "Sum"
  | .histogram .. => "Histogram"
  | .exponential .. => "ExponentialHistogram"
  | .summary _ => "Summary"

/-- The name of the aggregation temporality, empty where the type has none. -/
def temporality : MetricData → String
  | .gauge _ | .summary _ => ""
  | .sum _ t _ | .histogram _ t | .exponential _ t => temporalityName t

/-- The data is a monotonic sum. -/
def isMonotonic : MetricData → Bool
  | .sum _ _ monotonic => monotonic
  | _ => false

/-- Converts the points of the data. -/
def preparePoints : MetricData → Except Error (List (Attributes × Point))
  | .gauge points => Otlp.preparePoints NumberPoint.base NumberPoint.toRecord points
  | .sum points _ _ => Otlp.preparePoints NumberPoint.base NumberPoint.toRecord points
  | .histogram points _ =>
    Otlp.preparePoints (fun p => p.distribution.base) HistogramPoint.toRecord points
  | .exponential points _ =>
    Otlp.preparePoints (fun p => p.distribution.base) ExponentialPoint.toRecord points
  | .summary points => Otlp.preparePoints SummaryPoint.base SummaryPoint.toRecord points

end MetricData

namespace Metric

/-- The identity of a metric, as far as the metric itself says. -/
def identity (m : Metric) : MetricIdentity :=
  { resource := .zero
    scope := .zero
    name := m.name
    kind := (m.data.map MetricData.kind).getD "Empty"
    unit := m.unit
    temporality := (m.data.map MetricData.temporality).getD ""
    monotonic := (m.data.map MetricData.isMonotonic).getD false }

/-- Converts a metric. A metric without data has no points. -/
def prepare (m : Metric) : Except Error PreparedMetric := do
  let points ← match m.data with
    | some data => data.preparePoints
    | none => pure []
  pure ⟨m.identity, m.description, KeyValue.toAttributes m.metadata, points⟩

/-- Converting the metric fails. -/
def isMalformed (m : Metric) : Bool :=
  match m.prepare with
  | .ok _ => false
  | .error _ => true

end Metric

/-- What converting metrics warns about: those without data, up to the first that fails. -/
def MetricExport.warnings (request : MetricExport) : List Warning :=
  ((request.items.takeWhile fun m => !m.isMalformed).filter fun m => m.data.isNone).map
    fun m => .noData m.name

end Otlp

/-- The step that stores a span. -/
def PreparedSpan.commit (origin : Origin) (p : PreparedSpan) : List Step :=
  [.commitSpan p.ref { p.span with origin }]

/-- The step that stores a log record. -/
def LogRecord.commit (origin : Origin) (log : LogRecord) : List Step :=
  [.commitLog { log with origin }]

/-- The identity of a metric from a given origin. -/
def PreparedMetric.identityFrom (p : PreparedMetric) (origin : Origin) : MetricIdentity :=
  { p.identity with resource := origin.resource, scope := origin.scope }

/-- The steps that store a metric: its header, its points in order, and a look at the outcome. -/
def PreparedMetric.commit (origin : Origin) (p : PreparedMetric) : List Step :=
  let identity := p.identityFrom origin
  .commitMetric identity p.description p.metadata ::
    p.points.map (fun (attr, point) =>
      .commitPoint identity p.description p.metadata attr (point.deliveredBy origin.request)) ++
    [.showMetric identity.id]

end Telemetry
