import Telemetry.Record.Log

/-!
# Metrics

A metric is named by its identity: where it comes from, its name, the type of its data, its unit
and how its points add up. Under an identity the points are grouped into streams by their
attributes, in order of arrival. Description and metadata are not part of the identity; where
senders disagree about them the longer description and the first metadata stay, and the metric is
marked.
-/

namespace Telemetry

/-- What names a metric. -/
structure MetricIdentity where
  resource : ResourceId
  scope : ScopeId
  name : String
  /-- The type of the data, such as `Sum`. -/
  kind : String
  unit : String
  /-- The aggregation temporality, empty where the type has none. -/
  temporality : String
  /-- Of meaning for sums only. -/
  monotonic : Bool
  deriving DecidableEq

/-- What every data point has. -/
structure PointBase where
  time : UInt64
  start : UInt64
  flags : UInt32
  request : RequestId

/-- A single measurement that a point was made from. -/
structure Exemplar where
  time : UInt64
  value : Option Value
  attr : Attributes
  source : SpanRef

/-- A point of a gauge or of a sum. -/
structure NumberPoint where
  base : PointBase
  value : Option Value
  exemplars : List Exemplar

/-- What the points of both kinds of histogram have. -/
structure Distribution where
  base : PointBase
  count : UInt64
  sum : Option Double
  min : Option Double
  max : Option Double
  exemplars : List Exemplar

/-- A point of a histogram with explicit bounds. -/
structure HistogramPoint where
  distribution : Distribution
  buckets : List UInt64
  bounds : List Double

/-- The buckets of an exponential histogram on one side of zero. -/
structure ExponentialBuckets where
  offset : Int32
  counts : List UInt64

/-- A point of an exponential histogram. -/
structure ExponentialPoint where
  distribution : Distribution
  scale : Int32
  zeroCount : UInt64
  zeroThreshold : Double
  positive : ExponentialBuckets
  negative : ExponentialBuckets

/-- The value at a quantile. -/
structure Quantile where
  quantile : Double
  value : Double

/-- A point of a summary. -/
structure SummaryPoint where
  base : PointBase
  count : UInt64
  sum : Double
  quantiles : List Quantile

/-- A data point of any type. -/
inductive Point where
  | number (p : NumberPoint)
  | histogram (p : HistogramPoint)
  | exponential (p : ExponentialPoint)
  | summary (p : SummaryPoint)

/-- The points of a metric with one attribute map, in order of arrival. -/
structure MetricStream where
  attr : Attributes
  points : List Point

/-- A stored metric. -/
structure Metric where
  identity : MetricIdentity
  description : String
  metadata : Attributes
  /-- Senders disagreed about description or metadata. -/
  conflict : Bool
  streams : Table (@Id.order .stream) MetricStream

namespace MetricIdentity

/-- Feeds an identity into a running digest. -/
def feed (d : Digest) (i : MetricIdentity) : Digest :=
  let source := i.scope.feed (i.resource.feed d)
  let named := ((source.writeText i.name).writeText i.kind).writeText i.unit
  (named.writeText i.temporality).writeBool i.monotonic

/-- The byte string that an identity amounts to. -/
def encoding (i : MetricIdentity) : Bytes :=
  i.resource.bytes ++ i.scope.bytes ++ Text.utf8 i.name ++ Text.utf8 i.kind ++
    Text.utf8 i.unit ++ Text.utf8 i.temporality ++ [i.monotonic.toUInt8]

/-- The digest that names a metric. -/
def id (i : MetricIdentity) : MetricId :=
  .ofDigest (i.feed .start)

/-- The members of an identity. -/
def members (i : MetricIdentity) : List (String × Doc) :=
  [("res", i.resource.toDoc), ("scope", i.scope.toDoc), ("name", .string i.name),
    ("type", .string i.kind)] ++
    Doc.memberIf (i.unit != "") "unit" (.string i.unit) ++
    Doc.memberIf (i.temporality != "") "tempo" (.string i.temporality) ++
    Doc.memberIf (i.kind == "Sum") "mono" (.bool i.monotonic)

end MetricIdentity

namespace PointBase

/-- The members that every point has. -/
def members (b : PointBase) : List (String × Doc) :=
  [("time", .timestamp b.time)] ++
    Doc.memberIf (b.start != 0) "time.start" (.timestamp b.start) ++
    Doc.memberIf (b.flags != 0) "flags" (.flags b.flags) ++
    [("req", b.request.toDoc)]

end PointBase

namespace Exemplar

/-- An exemplar as a document. -/
def toDoc (e : Exemplar) : Doc :=
  .map ([("time", .timestamp e.time)] ++
    Doc.member? "value" Value.toDoc e.value ++
    Doc.memberIf (!e.attr.isEmpty) "attr" (Attributes.toDoc e.attr) ++
    Doc.memberIf (e.source.trace.isPresent || e.source.span.isPresent) "span" e.source.toDoc)

/-- The member for exemplars, left out if there are none. -/
def members (exemplars : List Exemplar) : List (String × Doc) :=
  Doc.memberIf (!exemplars.isEmpty) "exemplars" (.array (exemplars.map toDoc))

end Exemplar

/-- A list of counts as a document. -/
def Doc.counts (counts : List UInt64) : Doc :=
  .array (counts.map .uint)

namespace Distribution

/-- The members that the points of both kinds of histogram have. -/
def members (d : Distribution) : List (String × Doc) :=
  d.base.members ++
    [("cnt", .uint d.count)] ++
    Doc.member? "sum" .double d.sum ++
    Doc.member? "min" .double d.min ++
    Doc.member? "max" .double d.max ++
    Exemplar.members d.exemplars

end Distribution

namespace Point

/-- What every data point has. -/
def base : Point → PointBase
  | .number p => p.base
  | .histogram p => p.distribution.base
  | .exponential p => p.distribution.base
  | .summary p => p.base

/-- The point as delivered by the given request. -/
def deliveredBy (request : RequestId) : Point → Point
  | .number p => .number { p with base := { p.base with request } }
  | .histogram p =>
    .histogram { p with
      distribution := { p.distribution with base := { p.distribution.base with request } } }
  | .exponential p =>
    .exponential { p with
      distribution := { p.distribution with base := { p.distribution.base with request } } }
  | .summary p => .summary { p with base := { p.base with request } }

/-- A quantile as a document. -/
def quantileDoc (q : Quantile) : Doc :=
  .map [("q", .double q.quantile), ("v", .double q.value)]

/-- The members of a data point. -/
def members : Point → List (String × Doc)
  | .number p =>
    p.base.members ++ Doc.member? "val" Value.toDoc p.value ++ Exemplar.members p.exemplars
  | .histogram p =>
    p.distribution.members ++
      Doc.memberIf (!p.buckets.isEmpty) "buckets" (.counts p.buckets) ++
      Doc.memberIf (!p.bounds.isEmpty) "bounds" (.array (p.bounds.map .double))
  | .exponential p =>
    p.distribution.members ++
      [("scale", .int p.scale.toInt64), ("zeros", .uint p.zeroCount)] ++
      Doc.memberIf (!p.zeroThreshold.isZero) "zeros.thre" (.double p.zeroThreshold) ++
      [("pos.off", .int p.positive.offset.toInt64), ("pos", .counts p.positive.counts),
        ("neg.off", .int p.negative.offset.toInt64), ("neg", .counts p.negative.counts)]
  | .summary p =>
    p.base.members ++
      [("cnt", .uint p.count), ("sum", .double p.sum),
        ("quantiles", .array (p.quantiles.map quantileDoc))]

/-- A data point as a document. -/
def toDoc (p : Point) : Doc :=
  .map p.members

end Point

/-- A stream as a document. -/
def MetricStream.toDoc (s : MetricStream) : Doc :=
  .map ([("attr", Attributes.toDoc s.attr)] ++
    Doc.memberIf (!s.points.isEmpty) "pts" (.array (s.points.map Point.toDoc)))

/-- The id of the stream for the given attributes. -/
def Attributes.streamId (attr : Attributes) : StreamId :=
  .ofDigest (Attributes.digest attr)

namespace Metric

/-- A metric without points. -/
def new (identity : MetricIdentity) (description : String) (metadata : Attributes) : Metric :=
  ⟨identity, description, metadata, false, .empty⟩

/-- The description and the metadata are those the metric has. -/
def hasHeader (m : Metric) (description : String) (metadata : Attributes) : Bool :=
  m.description == description && decide (Attributes.digest m.metadata = Attributes.digest metadata)

/-- Reconciles a description and metadata with those of the metric. The longer description, in
bytes, and the first metadata stay. -/
def mergeHeader (m : Metric) (description : String) (metadata : Attributes) : Metric :=
  if m.hasHeader description metadata then m
  else
    { m with
      description :=
        if m.description.utf8ByteSize < description.utf8ByteSize then description
        else m.description
      conflict := true }

/-- Reconciling this header is the first sign of a disagreement. -/
def isFirstConflict (m : Metric) (description : String) (metadata : Attributes) : Bool :=
  !m.hasHeader description metadata && !m.conflict

/-- Appends a point to the stream for its attributes. -/
def pushPoint (m : Metric) (attr : Attributes) (point : Point) : Metric :=
  { m with
    streams := m.streams.upsert (Attributes.streamId attr) fun
      | some stream => { stream with points := stream.points ++ [point] }
      | none => ⟨attr, [point]⟩ }

/-- The request of every point, in the order of streams and points. -/
def contributingRequests (m : Metric) : List RequestId :=
  m.streams.values.flatMap fun stream => stream.points.map fun p => p.base.request

/-- What listings show of a metric. -/
def listingDoc (m : Metric) : Doc :=
  .map (m.identity.members ++ [("desc", .string m.description)])

/-- A metric with all its points as a document. -/
def toDoc (m : Metric) : Doc :=
  .map (m.identity.members ++
    Doc.memberIf (m.description != "") "desc" (.string m.description) ++
    Doc.memberIf (!m.metadata.isEmpty) "meta" (Attributes.toDoc m.metadata) ++
    Doc.memberIf m.conflict "conflict" (.bool true) ++
    [("streams", .map (m.streams.entries.map fun (id, stream) => (id.hex, stream.toDoc)))])

end Metric

end Telemetry
