import Telemetry.Proofs.Otlp.AttributeOrder
import Telemetry.Proofs.Outcome

/-!
# What conversion keeps

Every message of an export request has a record that it is stored as.  `KeptAs` says for each kind
of message what its record has of it, without a word on how that comes about: attributes by what
they are under each key, lists one by one and in order, and a missing message by what it stands for.
Conversions that succeed give such records (`Span.keptAs_of_prepare`, `LogRecord.keptAs_of_prepare`,
`Metric.keptAs_of_prepare`), and those of resources and scopes always do
(`ResourceItems.keptAs_resourceRecord`, `ScopeItems.keptAs_scopeRecord`).

Metrics differ in the type of their points.  `Metric.points` lists them as data points of any type,
so one statement covers the five types: each point is kept in its place, together with the
attributes that name its stream (`Metric.forall₂_points`).

Where a record comes from is no part of what is kept, as conversion does not know it yet.
-/

namespace Telemetry.Otlp

/-! ### Attributes -/

namespace KeyValue

/-- The map has under each key the first value with content that the entries have. -/
structure KeptAs (entries : List KeyValue) (attr : Attributes) : Prop where
  ascending : attr.Ascending
  first : ∀ key, attr.get? key =
    (entries.find? fun e => e.key == key && e.hasContent).bind toValue?

theorem keptAs_toAttributes (entries : List KeyValue) : KeptAs entries (toAttributes entries) where
  ascending := Attributes.ascending_ofPairs _
  first := get?_toAttributes entries

theorem keptAs_nil : KeptAs [] [] :=
  toAttributes_nil ▸ keptAs_toAttributes []

end KeyValue

/-! ### Resources and scopes -/

/-- The record has what a group says of its resource.  A missing one has no attributes. -/
structure ResourceItems.KeptAs {ι : Type} (r : ResourceItems ι) (record : Telemetry.Resource) :
    Prop where
  attr : KeyValue.KeptAs ((r.resource.map Resource.attributes).getD []) record.attr
  dropped : record.dropped = (r.resource.map Resource.dropped).getD 0
  schema : record.schema = r.schema

theorem ResourceItems.keptAs_resourceRecord {ι : Type} (r : ResourceItems ι) :
    r.KeptAs (resourceRecord r.resource r.schema) := by
  obtain ⟨resource, scopes, schema⟩ := r
  cases resource with
  | none => exact ⟨KeyValue.keptAs_nil, rfl, rfl⟩
  | some resource => exact ⟨KeyValue.keptAs_toAttributes resource.attributes, rfl, rfl⟩

/-- The record has what a group says of its scope.  A missing one has no name, no version and no
attributes. -/
structure ScopeItems.KeptAs {ι : Type} (s : ScopeItems ι) (record : Telemetry.Scope) : Prop where
  name : record.name = (s.scope.map Scope.name).getD ""
  version : record.version = (s.scope.map Scope.version).getD ""
  attr : KeyValue.KeptAs ((s.scope.map Scope.attributes).getD []) record.attr
  dropped : record.dropped = (s.scope.map Scope.dropped).getD 0
  schema : record.schema = s.schema

theorem ScopeItems.keptAs_scopeRecord {ι : Type} (s : ScopeItems ι) :
    s.KeptAs (scopeRecord s.scope s.schema) := by
  obtain ⟨scope, items, schema⟩ := s
  cases scope with
  | none => exact ⟨rfl, rfl, KeyValue.keptAs_nil, rfl, rfl⟩
  | some scope => exact ⟨rfl, rfl, KeyValue.keptAs_toAttributes scope.attributes, rfl, rfl⟩

/-! ### Spans -/

/-- The record has what an event says. -/
structure Event.KeptAs (e : Event) (record : SpanEvent) : Prop where
  name : record.name = e.name
  time : record.time = e.time
  attr : KeyValue.KeptAs e.attributes record.attr
  dropped : record.dropped = e.dropped

theorem Event.keptAs_toRecord (e : Event) : e.KeptAs e.toRecord :=
  ⟨rfl, rfl, KeyValue.keptAs_toAttributes e.attributes, rfl⟩

/-- The record has what a link says, but for its flags. -/
structure Link.KeptAs (l : Link) (record : SpanLink) : Prop where
  trace : Id.ofBytes l.trace = .ok record.target.trace
  span : Id.ofBytes l.span = .ok record.target.span
  attr : KeyValue.KeptAs l.attributes record.attr
  dropped : record.dropped = l.dropped
  state : record.state = l.state

theorem Link.keptAs_of_toRecord {l : Link} {record : SpanLink} (h : l.toRecord = .ok record) :
    l.KeptAs record := by
  obtain ⟨trace, htrace, h⟩ := exists_of_bind_eq_ok h
  obtain ⟨span, hspan, rfl⟩ := exists_of_bind_pure_eq_ok h
  exact ⟨htrace, hspan, KeyValue.keptAs_toAttributes l.attributes, rfl, rfl⟩

/-- The record has what a span says, and its reference the ids.  A span without a status has one
that is not set and has no message. -/
structure Span.KeptAs (s : Span) (ref : SpanRef) (record : Telemetry.Span) : Prop where
  trace : Id.ofBytes s.trace = .ok ref.trace
  span : Id.ofBytes s.span = .ok ref.span
  parent : Id.ofBytes s.parent = .ok record.summary.parent
  name : record.summary.name = s.name
  status : record.summary.status = statusName ((s.status.map Status.code).getD 0)
  statusMessage : record.statusMessage = (s.status.map Status.message).getD ""
  start : record.summary.start = s.start
  finish : record.summary.finish = s.finish
  kind : record.kind = kindName s.kind
  attr : KeyValue.KeptAs s.attributes record.attr
  dropped : record.dropped = s.dropped
  state : record.state = s.state
  flags : record.flags = s.flags
  events : List.Forall₂ Event.KeptAs s.events record.events
  eventsDropped : record.eventsDropped = s.eventsDropped
  links : List.Forall₂ Link.KeptAs s.links record.links
  linksDropped : record.linksDropped = s.linksDropped

theorem Span.keptAs_of_prepare {s : Span} {p : PreparedSpan} (h : s.prepare = .ok p) :
    s.KeptAs p.ref p.span := by
  obtain ⟨links, hlinks, h⟩ := exists_of_bind_eq_ok h
  obtain ⟨trace, htrace, h⟩ := exists_of_bind_eq_ok h
  obtain ⟨span, hspan, h⟩ := exists_of_bind_eq_ok h
  obtain ⟨parent, hparent, rfl⟩ := exists_of_bind_pure_eq_ok h
  have hevents : List.Forall₂ Event.KeptAs s.events (s.events.map Event.toRecord) := by
    rw [List.forall₂_map_right_iff]
    exact List.forall₂_same.mpr fun e _ => e.keptAs_toRecord
  exact
    { trace := htrace, span := hspan, parent := hparent
      name := rfl, start := rfl, finish := rfl, kind := rfl
      dropped := rfl, state := rfl, flags := rfl, eventsDropped := rfl, linksDropped := rfl
      status := by cases s.status <;> rfl
      statusMessage := by cases s.status <;> rfl
      attr := KeyValue.keptAs_toAttributes s.attributes
      events := hevents
      links := (forall₂_of_mapM_eq_ok hlinks).imp fun _ _ => Link.keptAs_of_toRecord }

/-! ### Log records -/

/-- The record has what a log record says, and a summary of it.  The time at which it was converted
is shown if it says no time itself. -/
structure LogRecord.KeptAs (l : LogRecord) (now : UInt64) (log : Telemetry.LogRecord) : Prop where
  trace : Id.ofBytes l.trace = .ok log.trace
  span : Id.ofBytes l.span = .ok log.span
  severity : log.summary.severity = severityName l.severity
  shownTime : log.summary.time = LogSummary.shownTime now l.time l.observedTime
  shownBody : log.summary.body = LogSummary.shownBody l.event l.body.toValue?
  time : log.time = l.time
  observedTime : log.observedTime = l.observedTime
  severityText : log.severityText = l.severityText
  event : log.event = l.event
  body : log.body = l.body.toValue?
  attr : KeyValue.KeptAs l.attributes log.attr
  dropped : log.dropped = l.dropped
  flags : log.flags = l.flags

theorem LogRecord.keptAs_of_prepare {now : UInt64} {l : LogRecord} {log : Telemetry.LogRecord}
    (h : l.prepare now = .ok log) : l.KeptAs now log := by
  obtain ⟨trace, htrace, h⟩ := exists_of_bind_eq_ok h
  obtain ⟨span, hspan, rfl⟩ := exists_of_bind_pure_eq_ok h
  exact
    { trace := htrace, span := hspan
      severity := rfl, shownTime := rfl, shownBody := rfl, time := rfl, observedTime := rfl
      severityText := rfl, event := rfl, body := rfl, dropped := rfl, flags := rfl
      attr := KeyValue.keptAs_toAttributes l.attributes }

/-! ### Points -/

/-- The point has the times and the flags. -/
structure PointBase.KeptAs (b : PointBase) (record : Telemetry.PointBase) : Prop where
  time : record.time = b.time
  start : record.start = b.start
  flags : record.flags = b.flags

theorem PointBase.keptAs_toRecord (b : PointBase) : b.KeptAs b.toRecord :=
  ⟨rfl, rfl, rfl⟩

/-- The record has what an exemplar says. -/
structure Exemplar.KeptAs (e : Exemplar) (record : Telemetry.Exemplar) : Prop where
  trace : Id.ofBytes e.trace = .ok record.source.trace
  span : Id.ofBytes e.span = .ok record.source.span
  time : record.time = e.time
  value : record.value = e.value.map Number.toValue
  attr : KeyValue.KeptAs e.attributes record.attr

theorem Exemplar.keptAs_of_toRecord {e : Exemplar} {record : Telemetry.Exemplar}
    (h : e.toRecord = .ok record) : e.KeptAs record := by
  obtain ⟨trace, htrace, h⟩ := exists_of_bind_eq_ok h
  obtain ⟨span, hspan, rfl⟩ := exists_of_bind_pure_eq_ok h
  exact ⟨htrace, hspan, rfl, rfl, KeyValue.keptAs_toAttributes e.attributes⟩

theorem Exemplar.forall₂_of_mapM_toRecord {es : List Exemplar} {records : List Telemetry.Exemplar}
    (h : es.mapM Exemplar.toRecord = .ok records) : List.Forall₂ Exemplar.KeptAs es records :=
  (forall₂_of_mapM_eq_ok h).imp fun _ _ => keptAs_of_toRecord

/-- The point has what a point of a gauge or of a sum says. -/
structure NumberPoint.KeptAs (p : NumberPoint) (record : Telemetry.NumberPoint) : Prop where
  base : p.base.KeptAs record.base
  value : record.value = p.value.map Number.toValue
  exemplars : List.Forall₂ Exemplar.KeptAs p.exemplars record.exemplars

/-- The point has what the points of both kinds of histogram say. -/
structure Distribution.KeptAs (d : Distribution) (record : Telemetry.Distribution) : Prop where
  base : d.base.KeptAs record.base
  count : record.count = d.count
  sum : record.sum = d.sum
  min : record.min = d.min
  max : record.max = d.max
  exemplars : List.Forall₂ Exemplar.KeptAs d.exemplars record.exemplars

theorem Distribution.keptAs_of_toRecord {d : Distribution} {record : Telemetry.Distribution}
    (h : d.toRecord = .ok record) : d.KeptAs record := by
  obtain ⟨exemplars, hexemplars, rfl⟩ := exists_of_bind_pure_eq_ok h
  exact ⟨d.base.keptAs_toRecord, rfl, rfl, rfl, rfl, Exemplar.forall₂_of_mapM_toRecord hexemplars⟩

/-- The point has what a point of a histogram with explicit bounds says. -/
structure HistogramPoint.KeptAs (p : HistogramPoint) (record : Telemetry.HistogramPoint) :
    Prop where
  distribution : p.distribution.KeptAs record.distribution
  buckets : record.buckets = p.buckets
  bounds : record.bounds = p.bounds

/-- The record has the buckets on one side of zero.  Missing ones are none at offset zero. -/
structure Buckets.KeptAs (b : Option Buckets) (record : ExponentialBuckets) : Prop where
  offset : record.offset = (b.map Buckets.offset).getD 0
  counts : record.counts = (b.map Buckets.counts).getD []

theorem Buckets.keptAs_toRecord (b : Option Buckets) : Buckets.KeptAs b (Buckets.toRecord b) := by
  cases b <;> exact ⟨rfl, rfl⟩

/-- The point has what a point of an exponential histogram says. -/
structure ExponentialPoint.KeptAs (p : ExponentialPoint) (record : Telemetry.ExponentialPoint) :
    Prop where
  distribution : p.distribution.KeptAs record.distribution
  scale : record.scale = p.scale
  zeroCount : record.zeroCount = p.zeroCount
  zeroThreshold : record.zeroThreshold = p.zeroThreshold
  positive : Buckets.KeptAs p.positive record.positive
  negative : Buckets.KeptAs p.negative record.negative

/-- The point has what a point of a summary says. -/
structure SummaryPoint.KeptAs (p : SummaryPoint) (record : Telemetry.SummaryPoint) : Prop where
  base : p.base.KeptAs record.base
  count : record.count = p.count
  sum : record.sum = p.sum
  quantiles : List.Forall₂ (fun (q : QuantileValue) (record : Quantile) =>
    record.quantile = q.quantile ∧ record.value = q.value) p.quantiles record.quantiles

/-- A data point of any type. -/
inductive DataPoint where
  | number (p : NumberPoint)
  | histogram (p : HistogramPoint)
  | exponential (p : ExponentialPoint)
  | summary (p : SummaryPoint)

namespace DataPoint

/-- What every data point has. -/
def base : DataPoint → PointBase
  | .number p => p.base
  | .histogram p => p.distribution.base
  | .exponential p => p.distribution.base
  | .summary p => p.base

/-- The point is of the type of a data point and has what that says. -/
def KeptAs : DataPoint → Point → Prop
  | .number p, .number record => p.KeptAs record
  | .histogram p, .histogram record => p.KeptAs record
  | .exponential p, .exponential record => p.KeptAs record
  | .summary p, .summary record => p.KeptAs record
  | _, _ => False

/-- The point has what a data point says, and the attributes are those that name its stream. -/
def KeptUnder (d : DataPoint) (attr : Attributes) (point : Point) : Prop :=
  KeyValue.KeptAs d.base.attributes attr ∧ d.KeptAs point

/-- Who delivers a point does not change what is kept of it. -/
theorem KeptAs.deliveredBy {d : DataPoint} {point : Point} (h : d.KeptAs point)
    (request : RequestId) : d.KeptAs (point.deliveredBy request) := by
  cases d <;> cases point
  case number.number => exact ⟨⟨h.base.time, h.base.start, h.base.flags⟩, h.value, h.exemplars⟩
  case histogram.histogram =>
    obtain ⟨⟨base, count, sum, min, max, exemplars⟩, buckets, bounds⟩ := h
    exact ⟨⟨⟨base.time, base.start, base.flags⟩, count, sum, min, max, exemplars⟩, buckets, bounds⟩
  case exponential.exponential =>
    obtain ⟨⟨base, count, sum, min, max, exemplars⟩, hscale, hzeros, hthreshold, hpos, hneg⟩ := h
    exact ⟨⟨⟨base.time, base.start, base.flags⟩, count, sum, min, max, exemplars⟩, hscale, hzeros,
      hthreshold, hpos, hneg⟩
  case summary.summary =>
    exact ⟨⟨h.base.time, h.base.start, h.base.flags⟩, h.count, h.sum, h.quantiles⟩
  -- points of two types keep nothing of each other
  all_goals exact h.elim

end DataPoint

theorem NumberPoint.keptAs_of_toRecord {p : NumberPoint} {point : Point}
    (h : p.toRecord = .ok point) : (DataPoint.number p).KeptAs point := by
  obtain ⟨exemplars, hexemplars, rfl⟩ := exists_of_bind_pure_eq_ok h
  exact ⟨p.base.keptAs_toRecord, rfl, Exemplar.forall₂_of_mapM_toRecord hexemplars⟩

theorem HistogramPoint.keptAs_of_toRecord {p : HistogramPoint} {point : Point}
    (h : p.toRecord = .ok point) : (DataPoint.histogram p).KeptAs point := by
  obtain ⟨distribution, hdistribution, rfl⟩ := exists_of_bind_pure_eq_ok h
  exact ⟨Distribution.keptAs_of_toRecord hdistribution, rfl, rfl⟩

theorem ExponentialPoint.keptAs_of_toRecord {p : ExponentialPoint} {point : Point}
    (h : p.toRecord = .ok point) : (DataPoint.exponential p).KeptAs point := by
  obtain ⟨distribution, hdistribution, rfl⟩ := exists_of_bind_pure_eq_ok h
  exact ⟨Distribution.keptAs_of_toRecord hdistribution, rfl, rfl, rfl,
    Buckets.keptAs_toRecord p.positive, Buckets.keptAs_toRecord p.negative⟩

theorem SummaryPoint.keptAs_of_toRecord {p : SummaryPoint} {point : Point}
    (h : p.toRecord = .ok point) : (DataPoint.summary p).KeptAs point := by
  cases h
  refine ⟨p.base.keptAs_toRecord, rfl, rfl, ?_⟩
  rw [List.forall₂_map_right_iff]
  exact List.forall₂_same.mpr fun _ _ => ⟨rfl, rfl⟩

/-- **Points are converted one by one.**  There is one point for each data point, in the same place,
with the attributes of that data point. -/
theorem forall₂_preparePoints {π : Type} {base : π → PointBase} {convert : π → Except Error Point}
    (data : π → DataPoint) (hbase : ∀ p, (data p).base = base p)
    (hconvert : ∀ p point, convert p = .ok point → (data p).KeptAs point) {points : List π}
    {prepared : List (Attributes × Point)} (h : preparePoints base convert points = .ok prepared) :
    List.Forall₂ (fun d (x : Attributes × Point) => d.KeptUnder x.1 x.2) (points.map data)
      prepared := by
  rw [List.forall₂_map_left_iff]
  refine (forall₂_of_mapM_eq_ok h).imp fun p x hx => ?_
  obtain ⟨point, hpoint, rfl⟩ := exists_of_bind_pure_eq_ok hx
  have hattr : KeyValue.KeptAs (data p).base.attributes
      (KeyValue.toAttributes (base p).attributes) := by
    rw [hbase]
    exact KeyValue.keptAs_toAttributes (base p).attributes
  exact ⟨hattr, hconvert p point hpoint⟩

/-! ### Metrics -/

/-- The data points, in order. -/
def MetricData.points : MetricData → List DataPoint
  | .gauge points | .sum points _ _ => points.map .number
  | .histogram points _ => points.map .histogram
  | .exponential points _ => points.map .exponential
  | .summary points => points.map .summary

/-- The data points of a metric, in order.  A metric without data has none. -/
def Metric.points (m : Metric) : List DataPoint :=
  (m.data.map MetricData.points).getD []

theorem MetricData.forall₂_points {data : MetricData} {prepared : List (Attributes × Point)}
    (h : data.preparePoints = .ok prepared) :
    List.Forall₂ (fun d (x : Attributes × Point) => d.KeptUnder x.1 x.2) data.points prepared := by
  cases data with
  | gauge points | sum points temporality monotonic =>
    exact forall₂_preparePoints .number (fun _ => rfl)
      (fun _ _ => NumberPoint.keptAs_of_toRecord) h
  | histogram points temporality =>
    exact forall₂_preparePoints .histogram (fun _ => rfl)
      (fun _ _ => HistogramPoint.keptAs_of_toRecord) h
  | exponential points temporality =>
    exact forall₂_preparePoints .exponential (fun _ => rfl)
      (fun _ _ => ExponentialPoint.keptAs_of_toRecord) h
  | summary points =>
    exact forall₂_preparePoints .summary (fun _ => rfl)
      (fun _ _ => SummaryPoint.keptAs_of_toRecord) h

/-- The converted metric has what a metric says, and its points in their order. -/
structure Metric.KeptAs (m : Metric) (p : PreparedMetric) : Prop where
  name : p.identity.name = m.name
  kind : p.identity.kind = (m.data.map MetricData.kind).getD "Empty"
  unit : p.identity.unit = m.unit
  temporality : p.identity.temporality = (m.data.map MetricData.temporality).getD ""
  monotonic : p.identity.monotonic = (m.data.map MetricData.isMonotonic).getD false
  description : p.description = m.description
  metadata : KeyValue.KeptAs m.metadata p.metadata
  points : List.Forall₂ (fun d (x : Attributes × Point) => d.KeptUnder x.1 x.2) m.points p.points

theorem Metric.keptAs_of_prepare {m : Metric} {p : PreparedMetric} (h : m.prepare = .ok p) :
    m.KeptAs p := by
  -- only the points depend on whether the metric has data
  have hkept (prepared : List (Attributes × Point))
      (hpoints : List.Forall₂ (fun d (x : Attributes × Point) => d.KeptUnder x.1 x.2) m.points
        prepared) :
      m.KeptAs ⟨m.identity, m.description, KeyValue.toAttributes m.metadata, prepared⟩ :=
    ⟨rfl, rfl, rfl, rfl, rfl, rfl, KeyValue.keptAs_toAttributes m.metadata, hpoints⟩
  unfold points at hkept
  unfold prepare at h
  cases hdata : m.data with
  | none =>
    rw [hdata] at h hkept
    cases h
    exact hkept [] .nil
  | some data =>
    rw [hdata] at h hkept
    obtain ⟨prepared, hprepared, rfl⟩ := exists_of_bind_pure_eq_ok h
    exact hkept prepared (MetricData.forall₂_points hprepared)

/-! ### Groups -/

namespace Export

variable {ι : Type}

/-- The resources of the groups of a request, in order. -/
def resourceRecords (request : Export ι) : List Telemetry.Resource :=
  request.resources.map fun r => resourceRecord r.resource r.schema

/-- The scopes of the groups of a request, in order. -/
def scopeRecords (request : Export ι) : List Telemetry.Scope :=
  request.resources.flatMap fun r => r.scopes.map fun s => scopeRecord s.scope s.schema

/-- Other items are in the same groups. -/
theorem resourceRecords_map {κ : Type} (f : ι → κ) (request : Export ι) :
    (request.map f).resourceRecords = request.resourceRecords := by
  simp only [resourceRecords, map, List.map_map, Function.comp_def]

theorem scopeRecords_map {κ : Type} (f : ι → κ) (request : Export ι) :
    (request.map f).scopeRecords = request.scopeRecords := by
  simp only [scopeRecords, map, List.flatMap_map, List.map_map, Function.comp_def]

/-- Of each group of a request there is a record, in order and whatever the group holds. -/
structure GroupsKept (request : Export ι) : Prop where
  resources : List.Forall₂ ResourceItems.KeptAs request.resources request.resourceRecords
  scopes : List.Forall₂ ScopeItems.KeptAs (request.resources.flatMap ResourceItems.scopes)
    request.scopeRecords

theorem groupsKept (request : Export ι) : request.GroupsKept where
  resources := by
    rw [resourceRecords, List.forall₂_map_right_iff]
    exact List.forall₂_same.mpr fun r _ => r.keptAs_resourceRecord
  scopes := by
    rw [scopeRecords, ← List.map_flatMap, List.forall₂_map_right_iff]
    exact List.forall₂_same.mpr fun s _ => s.keptAs_scopeRecord

end Export

/-- Reading the clock does not change the groups of a request. -/
theorem LogExport.records_timed (clock : Clock) (request : LogExport) :
    (request.timed clock).resourceRecords = request.resourceRecords ∧
      (request.timed clock).scopeRecords = request.scopeRecords := by
  rw [← Export.resourceRecords_map TimedLog.record, ← Export.scopeRecords_map TimedLog.record,
    request.map_record_timed]
  exact ⟨rfl, rfl⟩

end Telemetry.Otlp
