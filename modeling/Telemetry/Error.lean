/-!
# Errors

An `Error` says what went wrong and carries the detail that its text ends with. A category groups
errors for display, and an error is the client's fault or this process's own.
-/

namespace Telemetry

/-- What went wrong, with the detail of its text. -/
inductive Error where
  | payload (detail : String)
  | contentType (detail : String)
  | contentEncoding (detail : String)
  | gzip (detail : String)
  | config (detail : String)
  | network (detail : String)
  | notFound (detail : String)
  | badRequest (detail : String)
  | protobuf (detail : String)
  | io (detail : String)
  | json (detail : String)
  | yaml (detail : String)
  deriving DecidableEq, Repr

namespace Error

/-- The text that stands in front of the detail. -/
def heading : Error → String
  | .payload _ => "Malformed payload: "
  | .contentType _ => "Unsupported content type: "
  | .contentEncoding _ => "Unsupported content encoding: "
  | .gzip _ => "Corrupt gzip body: "
  | .config _ => "Configuration error: "
  | .network _ => "Network error: "
  | .notFound _ => "Not found: "
  | .badRequest _ => "Bad request: "
  | .protobuf _ => "Protobuf decode error: "
  | .io _ => "IO error: "
  | .json _ => "Serialization error: "
  | .yaml _ => "YAML error: "

/-- The detail of an error. -/
def detail : Error → String
  | .payload d | .contentType d | .contentEncoding d | .gzip d | .config d | .network d
  | .notFound d | .badRequest d | .protobuf d | .io d | .json d | .yaml d => d

/-- The text of an error. -/
def message (e : Error) : String :=
  e.heading ++ e.detail

/-- The group an error is shown under. -/
def category : Error → String
  | .payload _ | .protobuf _ | .gzip _ => "payload"
  | .contentType _ | .contentEncoding _ => "content"
  | .config _ | .yaml _ => "config"
  | .network _ => "network"
  | .notFound _ => "not_found"
  | .badRequest _ => "validation"
  | .io _ => "io"
  | .json _ => "serialization"

/-- The sender caused the error, not this process. -/
def isClientError : Error → Bool
  | .config _ | .network _ | .io _ | .yaml _ => false
  | _ => true

end Error

end Telemetry
