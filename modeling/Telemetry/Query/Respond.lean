import Telemetry.Query.Route
import Telemetry.Query.Site
import Telemetry.Store.Ingest

/-!
# The read interface

Queries are answered with canonical JSON, compressed. Only a reset changes the store. Whatever is
no route is looked for among the static files.
-/

namespace Telemetry.Query

/-- The response with a document. -/
def documentResponse (text : String) : Http.Response :=
  { Http.Response.ofBody .ok "application/json" (Text.utf8 text) with isCompressed := true }

/-- The answer of a store to a query. -/
def answer (s : Store) (q : Query) : Except Http.Failure Doc :=
  match s.answer? q with
  | some doc => .ok doc
  | none => .error q.notFound

/-- The methods that a route has. -/
def methods : Route → List Http.Method
  | .reset => [.post]
  | _ => [.get, .head]

/-- Answers a route as it was sent. -/
def routeResponse (s : Store) (route : Route) : Http.Response × Effect :=
  match route.decode? with
  | none => (.ofText .badRequest "Invalid URL: a parameter is not valid UTF-8", .none s)
  | some route =>
    match route.query with
    | .error failure => (failure.toResponse, .none s)
    | .ok none => (documentResponse "\x7b\x7d", .ofSteps s [.reset])
    | .ok (some query) =>
      match answer s query with
      | .ok doc => (documentResponse doc.render, .none s)
      | .error failure => (failure.toResponse, .none s)

/-- Answers a request to the read interface of a store. -/
def respond (site : Site) (s : Store) (r : Http.Request) : Http.Response × Effect :=
  match Route.ofPath? r.path with
  | some route =>
    if r.method ∈ methods route then
      let (response, effect) := routeResponse s route
      (if r.method = .head then response.withoutBody else response, effect)
    else (.methodNotAllowed (methods route), .none s)
  | none => (site.respond r, .none s)

end Telemetry.Query
