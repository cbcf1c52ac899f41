import Telemetry.Store.Basic

/-!
# Queries

A query asks a store for a listing or for one record. Listings always have an answer; a record is
shown with what it came from, as far as that is stored.
-/

namespace Telemetry

/-- A question to a store. -/
inductive Query where
  | traces
  | span (ref : SpanRef)
  | logs
  | log (index : Nat)
  | metrics
  | metric (id : MetricId)
  deriving DecidableEq

namespace Store

/-- The entries of a table as a document, under the texts of their ids. -/
def tableDoc {kind : IdKind} {α : Type} (toDoc : α → Doc) (table : Table (@Id.order kind) α) :
    Doc :=
  .map (table.entries.map fun (id, a) => (id.hex, toDoc a))

/-- The members that show what a record came from. -/
def originMembers (s : Store) (origin : Origin) : List (String × Doc) :=
  Doc.member? "scope" Scope.toDoc (s.scopes.get? origin.scope) ++
    Doc.member? "resource" Resource.toDoc (s.resources.get? origin.resource) ++
    Doc.member? "request" RequestMeta.toDoc (s.requests.get? origin.request)

/-- A span and what it came from. -/
def spanDoc (s : Store) (span : Span) : Doc :=
  .map (("span", span.toDoc) :: s.originMembers span.origin)

/-- A log record and what it came from. -/
def logDoc (s : Store) (log : LogRecord) : Doc :=
  .map (("log", log.toDoc) :: s.originMembers log.origin)

/-- All metrics without their points, with the resources and scopes that they name. -/
def metricsDoc (s : Store) : Doc :=
  .map [("metrics", tableDoc Metric.listingDoc s.metrics),
    ("resources", tableDoc Resource.toDoc s.resources),
    ("scopes", tableDoc Scope.toDoc s.scopes)]

/-- The requests that delivered points of a metric, by id, as far as they are stored. -/
def contributingRequests (s : Store) (metric : Metric) : Table (@Id.order .request) RequestMeta :=
  Table.ofPairs (fun r _ => r)
    (metric.contributingRequests.filterMap fun id => (s.requests.get? id).map fun r => (id, r))

/-- A metric and the requests that delivered its points. -/
def metricDoc (s : Store) (metric : Metric) : Doc :=
  .map [("metric", metric.toDoc),
    ("requests", tableDoc RequestMeta.toDoc (s.contributingRequests metric))]

/-- The answer to a query, unless it asks for a record that is not stored. -/
def answer? (s : Store) : Query → Option Doc
  | .traces => some (tableDoc Trace.toDoc s.traces)
  | .span ref => (s.span? ref).map s.spanDoc
  | .logs => some (.array (s.logs.toList.map fun log => log.summary.toDoc))
  | .log index => s.logs[index]?.map s.logDoc
  | .metrics => some s.metricsDoc
  | .metric id => (s.metrics.get? id).map s.metricDoc

end Store

end Telemetry
