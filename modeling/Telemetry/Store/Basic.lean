import Telemetry.Record.Metric

/-!
# The store

A store is six tables. Requests, resources and scopes are interned: the first record under an id
stays. The first span of a trace with a given id stays, log records are appended, and metric
points join the stream that their attributes name. Resetting a store empties all six tables.
-/

namespace Telemetry

/-- Everything that has been received since the last reset. -/
structure Store where
  requests : Table (@Id.order .request) RequestMeta
  resources : Table (@Id.order .resource) Resource
  scopes : Table (@Id.order .scope) Scope
  traces : Table (@Id.order .trace) Trace
  /-- A record's position is its id. -/
  logs : Array LogRecord
  metrics : Table (@Id.order .metric) Metric

namespace Store

/-- The store in which nothing is stored. -/
def empty : Store := ⟨.empty, .empty, .empty, .empty, #[], .empty⟩

instance : Inhabited Store := ⟨empty⟩

/-- Stores request metadata under its digest unless that id is taken. -/
def internRequest (s : Store) (r : RequestMeta) : Store :=
  { s with requests := s.requests.insertIfNew r.id r }

/-- Stores a resource under its digest unless that id is taken. -/
def internResource (s : Store) (r : Resource) : Store :=
  { s with resources := s.resources.insertIfNew r.id r }

/-- Stores a scope under its digest unless that id is taken. -/
def internScope (s : Store) (c : Scope) : Store :=
  { s with scopes := s.scopes.insertIfNew c.id c }

/-- The stored span that a reference names. -/
def span? (s : Store) (ref : SpanRef) : Option Span :=
  (s.traces.get? ref.trace).bind fun trace => trace.get? ref.span

/-- Stores a span unless its trace has a span with that id. -/
def commitSpan (s : Store) (ref : SpanRef) (span : Span) : Store :=
  { s with
    traces := s.traces.upsert ref.trace fun trace =>
      (trace.getD .empty).insertIfNew ref.span span }

/-- What committing a span answers: it is stored, as its trace has no span with that id yet. -/
def acceptsSpan (s : Store) (ref : SpanRef) : Bool :=
  (s.span? ref).isNone

/-- Appends a log record. -/
def commitLog (s : Store) (log : LogRecord) : Store :=
  { s with logs := s.logs.push log }

/-- What committing a log record answers: the last position when it has been appended. -/
def logIndex (s : Store) (log : LogRecord) : Nat :=
  (s.commitLog log).logs.size - 1

/-- Stores a metric without points, or reconciles the header of the stored one. -/
def commitMetric (s : Store) (identity : MetricIdentity) (description : String)
    (metadata : Attributes) : Store :=
  { s with
    metrics := s.metrics.upsert identity.id fun
      | some metric => metric.mergeHeader description metadata
      | none => .new identity description metadata }

/-- Appends a point to its stream. The metric is made anew if a reset has removed it since its
header was committed. -/
def commitPoint (s : Store) (identity : MetricIdentity) (description : String)
    (metadata attr : Attributes) (point : Point) : Store :=
  { s with
    metrics := s.metrics.upsert identity.id fun metric =>
      (metric.getD (.new identity description metadata)).pushPoint attr point }

end Store

end Telemetry
