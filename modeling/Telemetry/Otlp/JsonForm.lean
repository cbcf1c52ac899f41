import Telemetry.Base64
import Telemetry.Json.Fields
import Telemetry.Otlp.Message

/-!
# Export requests as JSON

The JSON form of the protocol: members are in camel case and every member but a few may be
missing. Identifiers are hexadecimal text, byte strings are base64, and times are decimal text in
most messages but numbers in some. Data that does not fit its type leaves a metric without data
and a number point without a value, where every other mismatch refuses the request.
-/

namespace Telemetry.Otlp.JsonForm

open Json

/-- A 64-bit word as decimal text. -/
def wordText? (j : Json) : Option UInt64 := do
  let n ← Numeral.unsigned? (← text? j).toList
  if n < UInt64.size then some n.toUInt64 else none

/-- A signed 64-bit integer as a number or as decimal text. -/
def intOrText? (j : Json) : Option Int64 :=
  match j with
  | .string (some s) =>
    let magnitude := match s.toList with
      | '-' :: digits => (Numeral.number? digits).map fun n => -(n : Int)
      | unsigned => (Numeral.unsigned? unsigned).map fun n => (n : Int)
    (magnitude.filter fun i => decide (Int64.minValue.toInt ≤ i ∧ i ≤ Int64.maxValue.toInt)).map Int64.ofInt
  | _ => int64? j

/-- An identifier as hexadecimal text, which may start with `0x`. -/
def idText? (j : Json) : Option Bytes := do
  match (← text? j).toList with
  | '0' :: 'x' :: rest => Hex.toBytes? rest
  | all => Hex.toBytes? all

/-- A byte string as base64. -/
def base64? (j : Json) : Option Bytes := do
  Base64.decode? (← text? j).toList

/-- A record whose only field is a list that must be given. -/
def valueList? (room : Nat) (j : Json) : Option (List Json × Nat) := do
  let (fields, room) ← record? ["values"] room j
  match fields.get? "values", room with
  | some (.array items), room + 1 => some (items, room)
  | _, _ => none

mutual

/-- A value. Of several members that carry a value the last one counts, but all have to be right,
and there has to be one. -/
def anyValue? : Nat → Json → Option AnyValue
  | room + 1, .object members => do
    let members ← named? members
    if members.all fun (_, j) => isReadable room j then
      let contents ← members.filterMapM (m := Option) fun (name, j) =>
        match name with
        | "stringValue" => (text? j).map fun s => some (AnyValue.string s)
        | "boolValue" => (bool? j).map fun b => some (.bool b)
        | "intValue" => (intOrText? j).map fun n => some (.int n)
        | "doubleValue" => (Json.double? j).map fun x => some (.double x)
        | "bytesValue" => (base64? j).map fun b => some (.bytes b)
        | "arrayValue" =>
          -- The object around the list and the list itself take a level each.
          match valueList? room j, room with
          | some (items, _), room + 2 => (items.mapM (anyValue? room)).map fun vs => some (.array vs)
          | _, _ => none
        | "kvlistValue" =>
          match valueList? room j, room with
          | some (items, _), room + 2 =>
            (items.mapM (keyValue? room)).map fun kvs => some (.keyValues kvs)
          | _, _ => none
        | _ => some none
      contents.getLast?
    else none
  | _, _ => none

/-- A key with or without a value. -/
def keyValue? : Nat → Json → Option KeyValue
  | room + 1, j => do
    let (fields, _) ← completeRecord? ["key", "value"] (room + 1) j
    let key ← fields.required "key" text?
    let value ← fields.optional "value" none (nullable? (anyValue? room))
    match value with
    | some v => some (.entry key v)
    | none => some (.bare key)
  | _, _ => none

end

/-- A list of keys with or without values, empty if it is not given. -/
def attributes? (fields : Fields) (name : String) (room : Nat) : Option (List KeyValue) :=
  fields.optional name [] (list? keyValue? room)

/-! ### Resources and scopes -/

/-- A reference to an entity. Nothing of it is kept, but it has to be right. -/
def entityRef? (room : Nat) (j : Json) : Option Unit := do
  let (fields, room) ← record? ["schemaUrl", "type", "idKeys", "descriptionKeys"] room j
  let _ ← fields.required "schemaUrl" text?
  let _ ← fields.required "type" text?
  let _ ← fields.required "idKeys" (list? (fun _ => text?) room)
  let _ ← fields.required "descriptionKeys" (list? (fun _ => text?) room)
  some ()

/-- A resource. -/
def resource? (room : Nat) (j : Json) : Option Resource := do
  let (fields, room) ← record? ["attributes", "droppedAttributesCount", "entityRefs"] room j
  let attributes ← attributes? fields "attributes" room
  let dropped ← fields.optional "droppedAttributesCount" 0 word32?
  let _ ← fields.optional "entityRefs" [] (list? entityRef? room)
  some ⟨attributes, dropped⟩

/-- An instrumentation scope. -/
def scope? (room : Nat) (j : Json) : Option Scope := do
  let (fields, room) ← record? ["name", "version", "attributes", "droppedAttributesCount"] room j
  let name ← fields.optional "name" "" text?
  let version ← fields.optional "version" "" text?
  let attributes ← attributes? fields "attributes" room
  let dropped ← fields.optional "droppedAttributesCount" 0 word32?
  some ⟨name, version, attributes, dropped⟩

/-- The items of one scope, which stand under the given name. -/
def scopeItems? {ι : Type} (itemsName : String) (item? : Nat → Json → Option ι) (room : Nat)
    (j : Json) : Option (ScopeItems ι) := do
  let (fields, room) ← record? ["scope", itemsName, "schemaUrl"] room j
  let scope ← fields.optional "scope" none (nullable? (scope? room))
  let items ← fields.optional itemsName [] (list? item? room)
  let schema ← fields.optional "schemaUrl" "" text?
  some ⟨scope, items, schema⟩

/-- The items of one resource, by scopes that stand under the given name. -/
def resourceItems? {ι : Type} (scopesName itemsName : String) (item? : Nat → Json → Option ι)
    (room : Nat) (j : Json) : Option (ResourceItems ι) := do
  let (fields, room) ← record? ["resource", scopesName, "schemaUrl"] room j
  let resource ← fields.optional "resource" none (nullable? (resource? room))
  let scopes ← fields.optional scopesName [] (list? (scopeItems? itemsName item?) room)
  let schema ← fields.optional "schemaUrl" "" text?
  some ⟨resource, scopes, schema⟩

/-- An export request: its list of resources must be given. -/
def export? {ι : Type} (resourcesName scopesName itemsName : String)
    (item? : Nat → Json → Option ι) (j : Json) : Option (Export ι) := do
  let (fields, room) ← record? [resourcesName] maxDepth j
  let resources ← fields.required resourcesName
    (list? (resourceItems? scopesName itemsName item?) room)
  some ⟨resources⟩

/-! ### Spans -/

/-- An event of a span. -/
def event? (room : Nat) (j : Json) : Option Event := do
  let (fields, room) ← record? ["timeUnixNano", "name", "attributes", "droppedAttributesCount"] room j
  let time ← fields.optional "timeUnixNano" 0 wordText?
  let name ← fields.optional "name" "" text?
  let attributes ← attributes? fields "attributes" room
  let dropped ← fields.optional "droppedAttributesCount" 0 word32?
  some ⟨time, name, attributes, dropped⟩

/-- A link of a span. -/
def link? (room : Nat) (j : Json) : Option Link := do
  let (fields, room) ← record?
    ["traceId", "spanId", "traceState", "attributes", "droppedAttributesCount", "flags"] room j
  let trace ← fields.optional "traceId" [] idText?
  let span ← fields.optional "spanId" [] idText?
  let state ← fields.optional "traceState" "" text?
  let attributes ← attributes? fields "attributes" room
  let dropped ← fields.optional "droppedAttributesCount" 0 word32?
  let flags ← fields.optional "flags" 0 word32?
  some ⟨trace, span, state, attributes, dropped, flags⟩

/-- The status of a span. -/
def status? (room : Nat) (j : Json) : Option Status := do
  let (fields, _) ← record? ["message", "code"] room j
  let message ← fields.optional "message" "" text?
  let code ← fields.optional "code" 0 int32?
  some ⟨message, code⟩

/-- A span. -/
def span? (room : Nat) (j : Json) : Option Span := do
  let (fields, room) ← record?
    ["traceId", "spanId", "traceState", "parentSpanId", "flags", "name", "kind",
      "startTimeUnixNano", "endTimeUnixNano", "attributes", "droppedAttributesCount", "events",
      "droppedEventsCount", "links", "droppedLinksCount", "status"] room j
  let trace ← fields.optional "traceId" [] idText?
  let span ← fields.optional "spanId" [] idText?
  let state ← fields.optional "traceState" "" text?
  let parent ← fields.optional "parentSpanId" [] idText?
  let flags ← fields.optional "flags" 0 word32?
  let name ← fields.optional "name" "" text?
  let kind ← fields.optional "kind" 0 int32?
  let start ← fields.optional "startTimeUnixNano" 0 wordText?
  let finish ← fields.optional "endTimeUnixNano" 0 wordText?
  let attributes ← attributes? fields "attributes" room
  let dropped ← fields.optional "droppedAttributesCount" 0 word32?
  let events ← fields.optional "events" [] (list? event? room)
  let eventsDropped ← fields.optional "droppedEventsCount" 0 word32?
  let links ← fields.optional "links" [] (list? link? room)
  let linksDropped ← fields.optional "droppedLinksCount" 0 word32?
  let status ← fields.optional "status" none (nullable? (status? room))
  some
    { trace, span, state, parent, flags, name, kind, start, finish, attributes, dropped, events
      eventsDropped, links, linksDropped, status }

/-- An export request for traces. -/
def traces? (j : Json) : Option TraceExport :=
  export? "resourceSpans" "scopeSpans" "spans" span? j

/-! ### Log records -/

/-- A log record. -/
def logRecord? (room : Nat) (j : Json) : Option LogRecord := do
  let (fields, room) ← record?
    ["timeUnixNano", "observedTimeUnixNano", "severityNumber", "severityText", "body",
      "attributes", "droppedAttributesCount", "flags", "traceId", "spanId", "eventName"] room j
  let time ← fields.optional "timeUnixNano" 0 wordText?
  let observedTime ← fields.optional "observedTimeUnixNano" 0 wordText?
  let severity ← fields.optional "severityNumber" 0 int32?
  let severityText ← fields.optional "severityText" "" text?
  let body ← fields.optional "body" none (nullable? (anyValue? room))
  let attributes ← attributes? fields "attributes" room
  let dropped ← fields.optional "droppedAttributesCount" 0 word32?
  let flags ← fields.optional "flags" 0 word32?
  let trace ← fields.optional "traceId" [] idText?
  let span ← fields.optional "spanId" [] idText?
  let event ← fields.optional "eventName" "" text?
  some
    { time, observedTime, severity, severityText, body := body.getD .empty, attributes, dropped
      flags, trace, span, event }

/-- An export request for logs. -/
def logs? (j : Json) : Option LogExport :=
  export? "resourceLogs" "scopeLogs" "logRecords" logRecord? j

/-! ### Metrics -/

/-- A number under the name of its type. -/
def typedNumber? (name : String) (j : Json) : Option Number :=
  if name = "asInt" then (int64? j).map .int else (Json.double? j).map .double

/-- A number as an object of one member. -/
def number? (room : Nat) (j : Json) : Option Number :=
  match room, j with
  | _ + 1, .object [(some name, value)] =>
    if name = "asInt" ∨ name = "asDouble" then typedNumber? name value else none
  | _, _ => none

/-- An exemplar: all its members but the value must be given. -/
def exemplar? (room : Nat) (j : Json) : Option Exemplar := do
  let (fields, room) ← completeRecord?
    ["filteredAttributes", "timeUnixNano", "spanId", "traceId", "value"] room j
  let attributes ← fields.required "filteredAttributes" (list? keyValue? room)
  let time ← fields.required "timeUnixNano" word64?
  let span ← fields.required "spanId" idText?
  let trace ← fields.required "traceId" idText?
  let value ← fields.optional "value" none (nullable? (number? room))
  some ⟨attributes, time, span, trace, value⟩

/-- A point of a gauge or of a sum. -/
def numberPoint? (room : Nat) (j : Json) : Option NumberPoint := do
  let (fields, others, room) ← openRecord?
    ["attributes", "startTimeUnixNano", "timeUnixNano", "exemplars", "flags"] room j
  let attributes ← attributes? fields "attributes" room
  let start ← fields.optional "startTimeUnixNano" 0 wordText?
  let time ← fields.optional "timeUnixNano" 0 wordText?
  let exemplars ← fields.optional "exemplars" [] (list? exemplar? room)
  let flags ← fields.optional "flags" 0 word32?
  -- A number that does not fit its type is no error here: the point has no value then.
  let value := (firstAmong? ["asDouble", "asInt"] others).bind fun (name, j) => typedNumber? name j
  some ⟨⟨attributes, start, time, flags⟩, value, exemplars⟩

/-- A double or nothing. -/
def doubleField? (fields : Fields) (name : String) : Option (Option Double) :=
  fields.optional name none (nullable? Json.double?)

/-- A point of a histogram. -/
def histogramPoint? (room : Nat) (j : Json) : Option HistogramPoint := do
  let (fields, room) ← record?
    ["attributes", "startTimeUnixNano", "timeUnixNano", "count", "sum", "bucketCounts",
      "explicitBounds", "exemplars", "flags", "min", "max"] room j
  let attributes ← attributes? fields "attributes" room
  let start ← fields.optional "startTimeUnixNano" 0 wordText?
  let time ← fields.optional "timeUnixNano" 0 wordText?
  let count ← fields.optional "count" 0 word64?
  let sum ← doubleField? fields "sum"
  let buckets ← fields.optional "bucketCounts" [] (list? (fun _ => word64?) room)
  let bounds ← fields.optional "explicitBounds" [] (list? (fun _ => Json.double?) room)
  let exemplars ← fields.optional "exemplars" [] (list? exemplar? room)
  let flags ← fields.optional "flags" 0 word32?
  let min ← doubleField? fields "min"
  let max ← doubleField? fields "max"
  some ⟨⟨⟨attributes, start, time, flags⟩, count, sum, min, max, exemplars⟩, buckets, bounds⟩

/-- The buckets of an exponential histogram on one side of zero. -/
def buckets? (room : Nat) (j : Json) : Option Buckets := do
  let (fields, room) ← record? ["offset", "bucketCounts"] room j
  let offset ← fields.required "offset" int32?
  let counts ← fields.required "bucketCounts" (list? (fun _ => word64?) room)
  some ⟨offset, counts⟩

/-- A point of an exponential histogram. -/
def exponentialPoint? (room : Nat) (j : Json) : Option ExponentialPoint := do
  let (fields, room) ← completeRecord?
    ["attributes", "startTimeUnixNano", "timeUnixNano", "count", "sum", "scale", "zeroCount",
      "positive", "negative", "flags", "exemplars", "min", "max", "zeroThreshold"] room j
  let attributes ← fields.required "attributes" (list? keyValue? room)
  let start ← fields.required "startTimeUnixNano" word64?
  let time ← fields.required "timeUnixNano" word64?
  let count ← fields.required "count" word64?
  let sum ← doubleField? fields "sum"
  let scale ← fields.required "scale" int32?
  let zeroCount ← fields.required "zeroCount" word64?
  let positive ← fields.optional "positive" none (nullable? (buckets? room))
  let negative ← fields.optional "negative" none (nullable? (buckets? room))
  let flags ← fields.required "flags" word32?
  let exemplars ← fields.required "exemplars" (list? exemplar? room)
  let min ← doubleField? fields "min"
  let max ← doubleField? fields "max"
  let zeroThreshold ← fields.required "zeroThreshold" Json.double?
  some
    { distribution := ⟨⟨attributes, start, time, flags⟩, count, sum, min, max, exemplars⟩
      scale, zeroCount, zeroThreshold, positive, negative }

/-- The value at a quantile. -/
def quantile? (room : Nat) (j : Json) : Option QuantileValue := do
  let (fields, _) ← record? ["quantile", "value"] room j
  let quantile ← fields.required "quantile" Json.double?
  let value ← fields.required "value" Json.double?
  some ⟨quantile, value⟩

/-- A point of a summary. -/
def summaryPoint? (room : Nat) (j : Json) : Option SummaryPoint := do
  let (fields, room) ← record?
    ["attributes", "startTimeUnixNano", "timeUnixNano", "count", "sum", "quantileValues", "flags"]
    room j
  let attributes ← fields.required "attributes" (list? keyValue? room)
  let start ← fields.required "startTimeUnixNano" word64?
  let time ← fields.required "timeUnixNano" word64?
  let count ← fields.required "count" word64?
  let sum ← fields.required "sum" Json.double?
  let quantiles ← fields.required "quantileValues" (list? quantile? room)
  let flags ← fields.required "flags" word32?
  some ⟨⟨attributes, start, time, flags⟩, count, sum, quantiles⟩

/-- The points of data, and its aggregation temporality. -/
def aggregated? {π : Type} (point? : Nat → Json → Option π) (room : Nat) (j : Json) :
    Option (List π × Int32) := do
  let (fields, room) ← record? ["dataPoints", "aggregationTemporality"] room j
  let points ← fields.optional "dataPoints" [] (list? point? room)
  let temporality ← fields.optional "aggregationTemporality" 0 int32?
  some (points, temporality)

/-- The points of data that has nothing else. -/
def points? {π : Type} (point? : Nat → Json → Option π) (room : Nat) (j : Json) :
    Option (List π) := do
  let (fields, room) ← record? ["dataPoints"] room j
  fields.optional "dataPoints" [] (list? point? room)

/-- The data of a sum. -/
def sum? (room : Nat) (j : Json) : Option MetricData := do
  let (fields, room) ← record? ["dataPoints", "aggregationTemporality", "isMonotonic"] room j
  let points ← fields.optional "dataPoints" [] (list? numberPoint? room)
  let temporality ← fields.optional "aggregationTemporality" 0 int32?
  let monotonic ← fields.optional "isMonotonic" false bool?
  some (.sum points temporality monotonic)

/-- The names of the types of data. -/
def dataNames : List String :=
  ["gauge", "sum", "histogram", "exponentialHistogram", "summary"]

/-- Data under the name of its type. -/
def data? (room : Nat) (name : String) (j : Json) : Option MetricData :=
  match name with
  | "gauge" => (points? numberPoint? room j).map .gauge
  | "sum" => sum? room j
  | "histogram" => (aggregated? histogramPoint? room j).map fun (ps, t) => .histogram ps t
  | "exponentialHistogram" =>
    (aggregated? exponentialPoint? room j).map fun (ps, t) => .exponential ps t
  | _ => (points? summaryPoint? room j).map .summary

/-- A metric. The first member that names a type of data is its data. -/
def metric? (room : Nat) (j : Json) : Option Metric := do
  let (fields, others, room) ← openRecord? ["name", "description", "unit", "metadata"] room j
  let name ← fields.optional "name" "" text?
  let description ← fields.optional "description" "" text?
  let unit ← fields.optional "unit" "" text?
  let metadata ← attributes? fields "metadata" room
  -- Data that does not fit its type is no error here: the metric has no data then.
  let data := (firstAmong? dataNames others).bind fun (name, j) => data? room name j
  some ⟨name, description, unit, metadata, data⟩

/-- An export request for metrics. -/
def metrics? (j : Json) : Option MetricExport :=
  export? "resourceMetrics" "scopeMetrics" "metrics" metric? j

end Telemetry.Otlp.JsonForm
