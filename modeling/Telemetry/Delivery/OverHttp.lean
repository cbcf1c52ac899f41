import Telemetry.Delivery.ContentType
import Telemetry.Gzip.Member
import Telemetry.Http.Failure

/-!
# Deliveries over HTTP

An export request is posted to the path of its signal. The checks come in a fixed order: the
content type, the content encoding, the compressed data, the body, and then the ids in it. A
request that fails one of them is answered with the first failure and leaves the store as it was.
-/

namespace Telemetry.Delivery

/-- The path that export requests of a signal are posted to. -/
def path : Signal → String
  | .traces => "/v1/traces"
  | .logs => "/v1/logs"
  | .metrics => "/v1/metrics"

/-- The signal whose export requests are posted to a path. -/
def signalAt? (p : List Char) : Option Signal :=
  [Signal.traces, .logs, .metrics].find? fun signal => (path signal).toList = p

/-- The content type of a request. A header that is missing or that is not visible ASCII counts as
empty. -/
def contentType (r : Http.Request) : Except Error ContentType :=
  let value := ((r.header? "content-type").bind Http.visible?).getD ""
  match ContentType.parse? value with
  | some type => .ok type
  | none => .error (.contentType value)

/-- The name of the content encoding of a request, blank if there is none. -/
def encoding (r : Http.Request) : String :=
  match r.header? "content-encoding" with
  | some value => Text.trim ((Http.visible? value).getD "<binary>")
  | none => ""

/-- The body of a request before it was encoded. Gzip is the only encoding. -/
def body (r : Http.Request) : Except Error Bytes :=
  let encoding := encoding r
  if encoding = "" then .ok r.body
  else if Text.sameIgnoringCase encoding "gzip" then
    match Gzip.decode? r.body with
    | some body => .ok body
    | none => .error (.gzip "malformed member")
  else .error (.contentEncoding encoding)

/-- The export request that a request carries, and the content type it is written in. -/
def payload (signal : Signal) (r : Http.Request) : Except Error (ContentType × Payload) := do
  let type ← contentType r
  let body ← body r
  let payload ← type.decode signal body
  pure (type, payload)

/-- What is kept of a request. -/
def httpSender (r : Http.Request) : RequestMeta :=
  .withHeaders .http r.peer (Http.visibleHeaders r.headers)

/-- The outcome of a request that was posted to the path of a signal. -/
def outcome (s : Store) (clock : Clock) (signal : Signal) (r : Http.Request) :
    Except Error ContentType × Effect :=
  match payload signal r with
  | .ok (type, payload) =>
    let (result, effect) := s.ingest clock payload (httpSender r)
    (result.map fun _ => type, effect)
  | .error e => (.error e, .none s)

/-- Answers a request that was posted to the path of a signal. -/
def post (s : Store) (clock : Clock) (signal : Signal) (r : Http.Request) :
    Http.Response × Effect :=
  match outcome s clock signal r with
  | (.ok type, effect) => (.ofBody .ok type.name type.accepted, effect)
  | (.error e, effect) =>
    ((Http.Failure.ofError e).toResponse, effect.warn (.rejected signal r.peer e))

/-- Answers a request to the receiver. -/
def respond (s : Store) (clock : Clock) (r : Http.Request) : Http.Response × Effect :=
  match signalAt? r.path with
  | some signal =>
    if r.method = .post then post s clock signal r else (.methodNotAllowed [.post], .none s)
  | none => (.empty .notFound, .none s)

end Telemetry.Delivery
