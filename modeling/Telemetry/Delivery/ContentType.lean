import Telemetry.Otlp.JsonForm
import Telemetry.Otlp.WireForm
import Telemetry.Store.Ingest

/-!
# Content types

An export request is sent as protobuf or as JSON, and is answered in kind.
-/

namespace Telemetry

/-- How the body of an export request is written. -/
inductive ContentType where
  | protobuf
  | json
  deriving DecidableEq, Repr

namespace ContentType

/-- The name of a content type. -/
def name : ContentType → String
  | .protobuf => "application/x-protobuf"
  | .json => "application/json"

/-- The part of a header value that names the type: what stands before the first semicolon,
without the white space around it. -/
def essence (value : String) : String :=
  Text.trim (String.ofList (value.toList.takeWhile (· ≠ ';')))

/-- The content type that a header value names, in letters of either case. -/
def parse? (value : String) : Option ContentType :=
  if Text.sameIgnoringCase (essence value) (name .protobuf) then some .protobuf
  else if Text.sameIgnoringCase (essence value) (name .json) then some .json
  else none

/-- Reads a protobuf export request. -/
def ofProtobuf? (signal : Signal) (body : Bytes) : Option Payload :=
  match signal with
  | .traces => (Otlp.WireForm.traces? body).map .traces
  | .logs => (Otlp.WireForm.logs? body).map .logs
  | .metrics => (Otlp.WireForm.metrics? body).map .metrics

/-- Reads an export request from a JSON tree. -/
def ofTree? (signal : Signal) (tree : Json) : Option Payload :=
  match signal with
  | .traces => (Otlp.JsonForm.traces? tree).map .traces
  | .logs => (Otlp.JsonForm.logs? tree).map .logs
  | .metrics => (Otlp.JsonForm.metrics? tree).map .metrics

/-- Reads a JSON export request. -/
def ofJson? (signal : Signal) (body : Bytes) : Option Payload :=
  (Json.read? body).bind (ofTree? signal)

/-- Reads an export request of the given type or says that it is none. -/
def decode (type : ContentType) (signal : Signal) (body : Bytes) : Except Error Payload :=
  match type with
  | .protobuf =>
    match ofProtobuf? signal body with
    | some payload => .ok payload
    | none => .error (.protobuf "malformed message")
  | .json =>
    match ofJson? signal body with
    | some payload => .ok payload
    | none => .error (.json "malformed request")

/-- The answer to an accepted export request. An empty message has no bytes in protobuf. -/
def accepted : ContentType → Bytes
  | .protobuf => []
  | .json => Text.utf8 "\x7b\"partialSuccess\":null\x7d"

end ContentType

end Telemetry
