import Telemetry.Numeral
import Telemetry.Http.Failure
import Telemetry.Http.Percent
import Telemetry.Query.Basic

/-!
# Routes

Every query has a path. Paths are matched as they are sent; only then are the parameters in them
percent-decoded, and read as ids after that.
-/

namespace Telemetry

/-- What a path of the read interface stands for, with the parameters in it. -/
inductive Route where
  | traces
  | span (traceId spanId : String)
  | logs
  | log (index : String)
  | metrics
  | metric (id : String)
  | reset
  deriving DecidableEq

namespace Route

/-- What is left of a path after a given beginning. -/
def after? (beginning : String) (path : List Char) : Option (List Char) :=
  if beginning.toList.isPrefixOf path then some (path.drop beginning.length) else none

/-- A text is the last parameter of a path if it is not empty and has no slash. -/
def isLastParameter (text : List Char) : Bool :=
  !text.isEmpty && !text.contains '/'

/-- The one parameter of a path with a given beginning. -/
def parameter? (beginning : String) (path : List Char) : Option String :=
  ((after? beginning path).filter isLastParameter).map String.ofList

/-- The two parameters of a path with a given beginning. The first may be empty. -/
def parameters? (beginning : String) (path : List Char) : Option (String × String) := do
  let rest ← after? beginning path
  match rest.dropWhile (· ≠ '/') with
  | _ :: second =>
    if isLastParameter second then
      some (String.ofList (rest.takeWhile (· ≠ '/')), String.ofList second)
    else none
  | [] => none

/-- The route of a path, its parameters as they are sent. -/
def ofPath? (path : List Char) : Option Route :=
  if path = "/api/traces".toList then some traces
  else if path = "/api/logs".toList then some logs
  else if path = "/api/metrics".toList then some metrics
  else if path = "/api/reset".toList then some reset
  else if let some (traceId, spanId) := parameters? "/api/span/" path then
    some (span traceId spanId)
  else if let some index := parameter? "/api/log/" path then some (log index)
  else if let some id := parameter? "/api/metric/" path then some (metric id)
  else none

/-- A parameter percent-decoded, if that gives valid UTF-8. -/
def decodeParameter? (parameter : String) : Option String :=
  Http.decodedText? parameter.toList

/-- A route with its parameters percent-decoded. -/
def decode? : Route → Option Route
  | span traceId spanId => do
    some (span (← decodeParameter? traceId) (← decodeParameter? spanId))
  | log index => do some (log (← decodeParameter? index))
  | metric id => do some (metric (← decodeParameter? id))
  | route => some route

/-- Reads a log id: a decimal number of 64 bits, a plus sign in front of which does not matter. -/
def logIndex (text : String) : Except Http.Failure Nat :=
  match (Numeral.unsigned? text.toList).filter (· < UInt64.size) with
  | some index => .ok index
  | none => .error (.badRequest s!"invalid log id '{text}'")

/-- Reads an id of the given kind. -/
def idOf (kind : IdKind) (text : String) : Except Http.Failure (Id kind) :=
  (Id.parse text).mapError Http.Failure.ofError

/-- The query of a route whose parameters are decoded. Resetting is no query. -/
def query : Route → Except Http.Failure (Option Query)
  | traces => .ok (some .traces)
  | logs => .ok (some .logs)
  | metrics => .ok (some .metrics)
  | reset => .ok none
  | span traceId spanId => do
    let trace ← idOf .trace traceId
    let span ← idOf .span spanId
    pure (some (.span ⟨trace, span⟩))
  | log index => do
    let index ← logIndex index
    pure (some (.log index))
  | metric id => do
    let id ← idOf .metric id
    pure (some (.metric id))

end Route

/-- What a query for a record that is not stored is answered with. -/
def Query.notFound : Query → Http.Failure
  | .span ref => .notFound s!"span {ref.trace.hex}/{ref.span.hex}"
  | .log index => .notFound s!"log {index}"
  | .metric id => .notFound s!"metric {id.hex}"
  | .traces => .notFound "traces"
  | .logs => .notFound "logs"
  | .metrics => .notFound "metrics"

end Telemetry
