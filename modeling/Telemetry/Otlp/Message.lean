import Telemetry.Double.Basic
import Telemetry.Bytes

/-!
# Export requests

The messages of the OpenTelemetry protocol as far as this program reads them, after decoding. An
export request groups items by resource and by scope; traces, logs and metrics differ in the items
only. A sub-message that may be missing is an option, and a value without content is `.empty`.
-/

namespace Telemetry.Otlp

mutual

/-- A value of the protocol. -/
inductive AnyValue where
  /-- No variant is set. -/
  | empty
  | string (s : String)
  | bool (b : Bool)
  | int (n : Int64)
  | double (x : Double)
  | array (values : List AnyValue)
  | keyValues (entries : List KeyValue)
  | bytes (b : Bytes)

/-- A key with or without a value. -/
inductive KeyValue where
  | bare (key : String)
  | entry (key : String) (value : AnyValue)

end

instance : Inhabited AnyValue := ⟨.empty⟩

/-- The entity that telemetry is about. -/
structure Resource where
  attributes : List KeyValue
  dropped : UInt32

/-- The instrumentation scope that produced telemetry. -/
structure Scope where
  name : String
  version : String
  attributes : List KeyValue
  dropped : UInt32

/-- The items of one scope. -/
structure ScopeItems (ι : Type) where
  scope : Option Scope
  items : List ι
  schema : String

/-- The items of one resource. -/
structure ResourceItems (ι : Type) where
  resource : Option Resource
  scopes : List (ScopeItems ι)
  schema : String

/-- An export request. -/
structure Export (ι : Type) where
  resources : List (ResourceItems ι)

/-- An annotation of a span. -/
structure Event where
  time : UInt64
  name : String
  attributes : List KeyValue
  dropped : UInt32

/-- A reference to another span. -/
structure Link where
  trace : Bytes
  span : Bytes
  state : String
  attributes : List KeyValue
  dropped : UInt32
  flags : UInt32

/-- The status of a span. -/
structure Status where
  message : String
  code : Int32

/-- A span. -/
structure Span where
  trace : Bytes
  span : Bytes
  state : String
  parent : Bytes
  flags : UInt32
  name : String
  kind : Int32
  start : UInt64
  finish : UInt64
  attributes : List KeyValue
  dropped : UInt32
  events : List Event
  eventsDropped : UInt32
  links : List Link
  linksDropped : UInt32
  status : Option Status

/-- A log record. -/
structure LogRecord where
  time : UInt64
  observedTime : UInt64
  severity : Int32
  severityText : String
  body : AnyValue
  attributes : List KeyValue
  dropped : UInt32
  flags : UInt32
  trace : Bytes
  span : Bytes
  event : String

/-- A measured number. -/
inductive Number where
  | int (n : Int64)
  | double (x : Double)

/-- A single measurement that a point was made from. -/
structure Exemplar where
  attributes : List KeyValue
  time : UInt64
  span : Bytes
  trace : Bytes
  value : Option Number

/-- What every data point has. -/
structure PointBase where
  attributes : List KeyValue
  start : UInt64
  time : UInt64
  flags : UInt32

/-- A point of a gauge or of a sum. -/
structure NumberPoint where
  base : PointBase
  value : Option Number
  exemplars : List Exemplar

/-- What the points of both kinds of histogram have. -/
structure Distribution where
  base : PointBase
  count : UInt64
  sum : Option Double
  min : Option Double
  max : Option Double
  exemplars : List Exemplar

/-- A point of a histogram with explicit bounds. -/
structure HistogramPoint where
  distribution : Distribution
  buckets : List UInt64
  bounds : List Double

/-- The buckets of an exponential histogram on one side of zero. -/
structure Buckets where
  offset : Int32
  counts : List UInt64

/-- A point of an exponential histogram. -/
structure ExponentialPoint where
  distribution : Distribution
  scale : Int32
  zeroCount : UInt64
  zeroThreshold : Double
  positive : Option Buckets
  negative : Option Buckets

/-- The value at a quantile. -/
structure QuantileValue where
  quantile : Double
  value : Double

/-- A point of a summary. -/
structure SummaryPoint where
  base : PointBase
  count : UInt64
  sum : Double
  quantiles : List QuantileValue

/-- The data of a metric. -/
inductive MetricData where
  | gauge (points : List NumberPoint)
  | sum (points : List NumberPoint) (temporality : Int32) (monotonic : Bool)
  | histogram (points : List HistogramPoint) (temporality : Int32)
  | exponential (points : List ExponentialPoint) (temporality : Int32)
  | summary (points : List SummaryPoint)

/-- A metric. -/
structure Metric where
  name : String
  description : String
  unit : String
  metadata : List KeyValue
  data : Option MetricData

/-- An export request for traces. -/
abbrev TraceExport := Export Span
/-- An export request for logs. -/
abbrev LogExport := Export LogRecord
/-- An export request for metrics. -/
abbrev MetricExport := Export Metric

end Telemetry.Otlp
