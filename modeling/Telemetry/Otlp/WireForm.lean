import Telemetry.Otlp.Message
import Telemetry.Protobuf.Wire

/-!
# Export requests in protobuf

The field numbers of the protocol's messages. Fields may come in any order; of a scalar that comes
again the last one counts, a sub-message that comes again is merged, and of several members of a
choice the last one counts, merged if it is the same sub-message as before. Fields that a message
does not have are passed over.
-/

namespace Telemetry.Otlp.WireForm

open Protobuf

/-! ### Values -/

/-- Merges a field of a value that is neither a list of values nor one of keys. -/
def mergeScalar (levels : Nat) (v : AnyValue) (f : WireField) : Option AnyValue :=
  match f.number with
  | 1 => (text? f.value).map .string
  | 2 => (bool? f.value).map .bool
  | 3 => (int64? f.value).map .int
  | 4 => (fixed64? f.value).map fun x => .double ⟨x⟩
  | 7 => (bytes? f.value).map .bytes
  | _ => skip levels v f.value

/-- Merges a field of a message that is a list: its items have number 1. -/
def mergeItem {ι : Type} (read : Bytes → Option ι) (levels : Nat) (items : List ι) (f : WireField) :
    Option (List ι) :=
  if f.number = 1 then append (fun value => (bytes? value).bind read) items f.value
  else skip levels items f.value

/-- Merges a field of a key with or without a value that is not the value. -/
def mergeKey (levels : Nat) (kv : KeyValue) (f : WireField) : Option KeyValue :=
  if f.number = 1 then
    (text? f.value).map fun key =>
      match kv with
      | .bare _ => .bare key
      | .entry _ value => .entry key value
  else skip levels kv f.value

mutual

/-- Merges a field of a value. -/
def mergeAnyValue : Nat → AnyValue → WireField → Option AnyValue
  | 0, v, f => if f.number = 5 ∨ f.number = 6 then none else mergeScalar 0 v f
  | levels + 1, v, f =>
    -- A list is a message whose items are messages in turn, so an item is two levels down.
    let item := fun b =>
      match levels with
      | 0 => none
      | levels + 1 => mergeFields (mergeAnyValue levels) .empty b
    let entry := fun b =>
      match levels with
      | 0 => none
      | levels + 1 => mergeFields (mergeKeyValue levels) (.bare "") b
    match f.number with
    | 5 =>
      let before := match v with
        | .array values => values
        | _ => []
      (bytes? f.value).bind fun b => (mergeFields (mergeItem item levels) before b).map .array
    | 6 =>
      let before := match v with
        | .keyValues entries => entries
        | _ => []
      (bytes? f.value).bind fun b => (mergeFields (mergeItem entry levels) before b).map .keyValues
    | _ => mergeScalar (levels + 1) v f

/-- Merges a field of a key with or without a value. -/
def mergeKeyValue : Nat → KeyValue → WireField → Option KeyValue
  | 0, kv, f =>
    if f.number = 2 then none else mergeKey 0 kv f
  | levels + 1, kv, f =>
    if f.number = 2 then
      let (key, before) := match kv with
        | .bare key => (key, AnyValue.empty)
        | .entry key value => (key, value)
      (bytes? f.value).bind fun b => (mergeFields (mergeAnyValue levels) before b).map (.entry key)
    else mergeKey (levels + 1) kv f

end

/-- Reads a sub-message from nothing. -/
def fresh {α : Type} (merge : Merge α) (initial : α) (levels : Nat) (value : WireValue) : Option α :=
  submessage merge levels initial value

/-- Reads a key with or without a value. -/
def keyValue (levels : Nat) (value : WireValue) : Option KeyValue :=
  fresh mergeKeyValue (.bare "") levels value

/-! ### Resources and scopes -/

/-- A reference to an entity. Nothing of it is kept, but it has to be right. -/
def mergeEntityRef : Merge Unit := fun levels _ f =>
  match f.number with
  | 1 | 2 | 3 | 4 => (text? f.value).map fun _ => ()
  | _ => skip levels () f.value

/-- Merges a field of a resource. -/
def mergeResource : Merge Resource := fun levels r f =>
  match f.number with
  | 1 => (append (keyValue levels) r.attributes f.value).map fun attributes => { r with attributes }
  | 2 => (word32? f.value).map fun dropped => { r with dropped }
  | 3 => (fresh mergeEntityRef () levels f.value).map fun _ => r
  | _ => skip levels r f.value

/-- Merges a field of a scope. -/
def mergeScope : Merge Scope := fun levels s f =>
  match f.number with
  | 1 => (text? f.value).map fun name => { s with name }
  | 2 => (text? f.value).map fun version => { s with version }
  | 3 => (append (keyValue levels) s.attributes f.value).map fun attributes => { s with attributes }
  | 4 => (word32? f.value).map fun dropped => { s with dropped }
  | _ => skip levels s f.value

/-- Merges a field of the items of one scope. -/
def mergeScopeItems {ι : Type} (item : Nat → WireValue → Option ι) : Merge (ScopeItems ι) :=
  fun levels s f =>
    match f.number with
    | 1 =>
      (submessage mergeScope levels (s.scope.getD ⟨"", "", [], 0⟩) f.value).map
        fun scope => { s with scope := some scope }
    | 2 => (append (item levels) s.items f.value).map fun items => { s with items }
    | 3 => (text? f.value).map fun schema => { s with schema }
    | _ => skip levels s f.value

/-- Merges a field of the items of one resource. -/
def mergeResourceItems {ι : Type} (item : Nat → WireValue → Option ι) :
    Merge (ResourceItems ι) := fun levels r f =>
  match f.number with
  | 1 =>
    (submessage mergeResource levels (r.resource.getD ⟨[], 0⟩) f.value).map
      fun resource => { r with resource := some resource }
  | 2 =>
    (append (fresh (mergeScopeItems item) ⟨none, [], ""⟩ levels) r.scopes f.value).map
      fun scopes => { r with scopes }
  | 3 => (text? f.value).map fun schema => { r with schema }
  | _ => skip levels r f.value

/-- Merges a field of an export request. -/
def mergeExport {ι : Type} (item : Nat → WireValue → Option ι) : Merge (Export ι) :=
  fun levels e f =>
    match f.number with
    | 1 =>
      (append (fresh (mergeResourceItems item) ⟨none, [], ""⟩ levels) e.resources f.value).map
        fun resources => { e with resources }
    | _ => skip levels e f.value

/-! ### Spans -/

/-- Merges a field of an event. -/
def mergeEvent : Merge Event := fun levels e f =>
  match f.number with
  | 1 => (fixed64? f.value).map fun time => { e with time }
  | 2 => (text? f.value).map fun name => { e with name }
  | 3 => (append (keyValue levels) e.attributes f.value).map fun attributes => { e with attributes }
  | 4 => (word32? f.value).map fun dropped => { e with dropped }
  | _ => skip levels e f.value

/-- Merges a field of a link. -/
def mergeLink : Merge Link := fun levels l f =>
  match f.number with
  | 1 => (bytes? f.value).map fun trace => { l with trace }
  | 2 => (bytes? f.value).map fun span => { l with span }
  | 3 => (text? f.value).map fun state => { l with state }
  | 4 => (append (keyValue levels) l.attributes f.value).map fun attributes => { l with attributes }
  | 5 => (word32? f.value).map fun dropped => { l with dropped }
  | 6 => (fixed32? f.value).map fun flags => { l with flags }
  | _ => skip levels l f.value

/-- Merges a field of a status. -/
def mergeStatus : Merge Status := fun levels s f =>
  match f.number with
  | 2 => (text? f.value).map fun message => { s with message }
  | 3 => (int32? f.value).map fun code => { s with code }
  | _ => skip levels s f.value

/-- Merges a field of a span. -/
def mergeSpan : Merge Span := fun levels s f =>
  match f.number with
  | 1 => (bytes? f.value).map fun trace => { s with trace }
  | 2 => (bytes? f.value).map fun span => { s with span }
  | 3 => (text? f.value).map fun state => { s with state }
  | 4 => (bytes? f.value).map fun parent => { s with parent }
  | 5 => (text? f.value).map fun name => { s with name }
  | 6 => (int32? f.value).map fun kind => { s with kind }
  | 7 => (fixed64? f.value).map fun start => { s with start }
  | 8 => (fixed64? f.value).map fun finish => { s with finish }
  | 9 => (append (keyValue levels) s.attributes f.value).map fun attributes => { s with attributes }
  | 10 => (word32? f.value).map fun dropped => { s with dropped }
  | 11 =>
    (append (fresh mergeEvent ⟨0, "", [], 0⟩ levels) s.events f.value).map
      fun events => { s with events }
  | 12 => (word32? f.value).map fun eventsDropped => { s with eventsDropped }
  | 13 =>
    (append (fresh mergeLink ⟨[], [], "", [], 0, 0⟩ levels) s.links f.value).map
      fun links => { s with links }
  | 14 => (word32? f.value).map fun linksDropped => { s with linksDropped }
  | 15 =>
    (submessage mergeStatus levels (s.status.getD ⟨"", 0⟩) f.value).map
      fun status => { s with status := some status }
  | 16 => (fixed32? f.value).map fun flags => { s with flags }
  | _ => skip levels s f.value

/-- A span. -/
def span (levels : Nat) (value : WireValue) : Option Span :=
  fresh mergeSpan ⟨[], [], "", [], 0, "", 0, 0, 0, [], 0, [], 0, [], 0, none⟩ levels value

/-- An export request for traces. -/
def traces? (input : Bytes) : Option TraceExport :=
  decode? (mergeExport span) ⟨[]⟩ input

/-! ### Log records -/

/-- Merges a field of a log record. -/
def mergeLogRecord : Merge LogRecord := fun levels l f =>
  match f.number with
  | 1 => (fixed64? f.value).map fun time => { l with time }
  | 2 => (int32? f.value).map fun severity => { l with severity }
  | 3 => (text? f.value).map fun severityText => { l with severityText }
  | 5 => (submessage mergeAnyValue levels l.body f.value).map fun body => { l with body }
  | 6 => (append (keyValue levels) l.attributes f.value).map fun attributes => { l with attributes }
  | 7 => (word32? f.value).map fun dropped => { l with dropped }
  | 8 => (fixed32? f.value).map fun flags => { l with flags }
  | 9 => (bytes? f.value).map fun trace => { l with trace }
  | 10 => (bytes? f.value).map fun span => { l with span }
  | 11 => (fixed64? f.value).map fun observedTime => { l with observedTime }
  | 12 => (text? f.value).map fun event => { l with event }
  | _ => skip levels l f.value

/-- A log record. -/
def logRecord (levels : Nat) (value : WireValue) : Option LogRecord :=
  fresh mergeLogRecord ⟨0, 0, 0, "", .empty, [], 0, 0, [], [], ""⟩ levels value

/-- An export request for logs. -/
def logs? (input : Bytes) : Option LogExport :=
  decode? (mergeExport logRecord) ⟨[]⟩ input

/-! ### Metrics -/

/-- A double. -/
def double? (value : WireValue) : Option Double :=
  (fixed64? value).map Double.mk

/-- A signed integer in eight bytes. -/
def fixedInt64? (value : WireValue) : Option Int64 :=
  (fixed64? value).map UInt64.toInt64

/-- Merges a field of an exemplar. -/
def mergeExemplar : Merge Exemplar := fun levels e f =>
  match f.number with
  | 2 => (fixed64? f.value).map fun time => { e with time }
  | 3 => (double? f.value).map fun x => { e with value := some (.double x) }
  | 4 => (bytes? f.value).map fun span => { e with span }
  | 5 => (bytes? f.value).map fun trace => { e with trace }
  | 6 => (fixedInt64? f.value).map fun n => { e with value := some (.int n) }
  | 7 => (append (keyValue levels) e.attributes f.value).map fun attributes => { e with attributes }
  | _ => skip levels e f.value

/-- Appends an exemplar. -/
def exemplars (levels : Nat) (before : List Exemplar) (f : WireField) : Option (List Exemplar) :=
  append (fresh mergeExemplar ⟨[], 0, [], [], none⟩ levels) before f.value

/-- A point about which nothing is known. -/
def noBase : PointBase := ⟨[], 0, 0, 0⟩

/-- A distribution about which nothing is known. -/
def noDistribution : Distribution := ⟨noBase, 0, none, none, none, []⟩

/-- Appends an attribute of a point. -/
def pointAttribute (levels : Nat) (b : PointBase) (f : WireField) : Option PointBase :=
  (append (keyValue levels) b.attributes f.value).map fun attributes => { b with attributes }

/-- Merges a field that all points have: start, time or flags. -/
def mergeBase (flagsNumber : Nat) (levels : Nat) (b : PointBase) (f : WireField) : Option PointBase :=
  if f.number = 2 then (fixed64? f.value).map fun start => { b with start }
  else if f.number = 3 then (fixed64? f.value).map fun time => { b with time }
  else if f.number = flagsNumber then (word32? f.value).map fun flags => { b with flags }
  else skip levels b f.value

/-- Merges a field of a number point. -/
def mergeNumberPoint : Merge NumberPoint := fun levels p f =>
  match f.number with
  | 4 => (double? f.value).map fun x => { p with value := some (.double x) }
  | 5 => (exemplars levels p.exemplars f).map fun exemplars => { p with exemplars }
  | 6 => (fixedInt64? f.value).map fun n => { p with value := some (.int n) }
  | 7 => (pointAttribute levels p.base f).map fun base => { p with base }
  | _ => (mergeBase 8 levels p.base f).map fun base => { p with base }

/-- Merges a field of a histogram point. -/
def mergeHistogramPoint : Merge HistogramPoint := fun levels p f =>
  let d := p.distribution
  let put (distribution : Distribution) : HistogramPoint := { p with distribution }
  match f.number with
  | 4 => (fixed64? f.value).map fun count => put { d with count }
  | 5 => (double? f.value).map fun sum => put { d with sum := some sum }
  | 6 => (fixed64s? f.value).map fun counts => { p with buckets := p.buckets ++ counts }
  | 7 => (fixed64s? f.value).map fun bounds => { p with bounds := p.bounds ++ bounds.map Double.mk }
  | 8 => (exemplars levels d.exemplars f).map fun exemplars => put { d with exemplars }
  | 9 => (pointAttribute levels d.base f).map fun base => put { d with base }
  | 11 => (double? f.value).map fun min => put { d with min := some min }
  | 12 => (double? f.value).map fun max => put { d with max := some max }
  | _ => (mergeBase 10 levels d.base f).map fun base => put { d with base }

/-- Merges a field of buckets. -/
def mergeBuckets : Merge Buckets := fun levels b f =>
  match f.number with
  | 1 => (zigzag32? f.value).map fun offset => { b with offset }
  | 2 => (varints? f.value).map fun counts => { b with counts := b.counts ++ counts }
  | _ => skip levels b f.value

/-- Merges buckets into those that may have been read before. -/
def bucketsAfter (levels : Nat) (before : Option Buckets) (f : WireField) :
    Option (Option Buckets) :=
  (submessage mergeBuckets levels (before.getD ⟨0, []⟩) f.value).map some

/-- Merges a field of a point of an exponential histogram. -/
def mergeExponentialPoint : Merge ExponentialPoint := fun levels p f =>
  let d := p.distribution
  let put (distribution : Distribution) : ExponentialPoint := { p with distribution }
  match f.number with
  | 1 => (pointAttribute levels d.base f).map fun base => put { d with base }
  | 4 => (fixed64? f.value).map fun count => put { d with count }
  | 5 => (double? f.value).map fun sum => put { d with sum := some sum }
  | 6 => (zigzag32? f.value).map fun scale => { p with scale }
  | 7 => (fixed64? f.value).map fun zeroCount => { p with zeroCount }
  | 8 => (bucketsAfter levels p.positive f).map fun positive => { p with positive }
  | 9 => (bucketsAfter levels p.negative f).map fun negative => { p with negative }
  | 11 => (exemplars levels d.exemplars f).map fun exemplars => put { d with exemplars }
  | 12 => (double? f.value).map fun min => put { d with min := some min }
  | 13 => (double? f.value).map fun max => put { d with max := some max }
  | 14 => (double? f.value).map fun zeroThreshold => { p with zeroThreshold }
  | _ => (mergeBase 10 levels d.base f).map fun base => put { d with base }

/-- Merges a field of the value at a quantile. -/
def mergeQuantile : Merge QuantileValue := fun levels q f =>
  match f.number with
  | 1 => (double? f.value).map fun quantile => { q with quantile }
  | 2 => (double? f.value).map fun value => { q with value }
  | _ => skip levels q f.value

/-- Merges a field of a summary point. -/
def mergeSummaryPoint : Merge SummaryPoint := fun levels p f =>
  match f.number with
  | 4 => (fixed64? f.value).map fun count => { p with count }
  | 5 => (double? f.value).map fun sum => { p with sum }
  | 6 =>
    (append (fresh mergeQuantile ⟨.zero, .zero⟩ levels) p.quantiles f.value).map
      fun quantiles => { p with quantiles }
  | 7 => (pointAttribute levels p.base f).map fun base => { p with base }
  | _ => (mergeBase 8 levels p.base f).map fun base => { p with base }

/-- Points of data, its aggregation temporality, and whether it is monotonic. -/
structure Aggregated (π : Type) where
  points : List π
  temporality : Int32
  monotonic : Bool

/-- Merges a field of data. `scalars` is the number of scalar fields that follow the points. -/
def mergeAggregated {π : Type} (scalars : Nat) (merge : Merge π) (initial : π) :
    Merge (Aggregated π) := fun levels a f =>
  if f.number = 1 then
    (append (fresh merge initial levels) a.points f.value).map fun points => { a with points }
  else if f.number = 2 ∧ 1 ≤ scalars then
    (int32? f.value).map fun temporality => { a with temporality }
  else if f.number = 3 ∧ 2 ≤ scalars then
    (bool? f.value).map fun monotonic => { a with monotonic }
  else skip levels a f.value

/-- Merges data into data of the same type that may have been read before. -/
def data {π : Type} (scalars : Nat) (merge : Merge π) (initial : π) (levels : Nat)
    (before : Option (Aggregated π)) (f : WireField) : Option (Aggregated π) :=
  submessage (mergeAggregated scalars merge initial) levels (before.getD ⟨[], 0, false⟩) f.value

/-- A number point about which nothing is known. -/
def noNumberPoint : NumberPoint := ⟨noBase, none, []⟩

/-- Merges a field of a metric. -/
def mergeMetric : Merge Metric := fun levels m f =>
  let put (data : MetricData) : Metric := { m with data := some data }
  match f.number with
  | 1 => (text? f.value).map fun name => { m with name }
  | 2 => (text? f.value).map fun description => { m with description }
  | 3 => (text? f.value).map fun unit => { m with unit }
  | 5 =>
    let before := match m.data with
      | some (.gauge points) => some ⟨points, 0, false⟩
      | _ => none
    (data 0 mergeNumberPoint noNumberPoint levels before f).map fun a => put (.gauge a.points)
  | 7 =>
    let before := match m.data with
      | some (.sum points temporality monotonic) => some ⟨points, temporality, monotonic⟩
      | _ => none
    (data 2 mergeNumberPoint noNumberPoint levels before f).map
      fun a => put (.sum a.points a.temporality a.monotonic)
  | 9 =>
    let before := match m.data with
      | some (.histogram points temporality) => some ⟨points, temporality, false⟩
      | _ => none
    (data 1 mergeHistogramPoint ⟨noDistribution, [], []⟩ levels before f).map
      fun a => put (.histogram a.points a.temporality)
  | 10 =>
    let before := match m.data with
      | some (.exponential points temporality) => some ⟨points, temporality, false⟩
      | _ => none
    (data 1 mergeExponentialPoint ⟨noDistribution, 0, 0, .zero, none, none⟩ levels before f).map
      fun a => put (.exponential a.points a.temporality)
  | 11 =>
    let before := match m.data with
      | some (.summary points) => some ⟨points, 0, false⟩
      | _ => none
    (data 0 mergeSummaryPoint ⟨noBase, 0, .zero, []⟩ levels before f).map
      fun a => put (.summary a.points)
  | 12 => (append (keyValue levels) m.metadata f.value).map fun metadata => { m with metadata }
  | _ => skip levels m f.value

/-- A metric. -/
def metric (levels : Nat) (value : WireValue) : Option Metric :=
  fresh mergeMetric ⟨"", "", "", [], none⟩ levels value

/-- An export request for metrics. -/
def metrics? (input : Bytes) : Option MetricExport :=
  decode? (mergeExport metric) ⟨[]⟩ input

end Telemetry.Otlp.WireForm
