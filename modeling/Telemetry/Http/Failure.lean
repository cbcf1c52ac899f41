import Telemetry.Error
import Telemetry.Http.Message

/-!
# Failures

A request that cannot be answered as it asks fails with a status and a message. The response says
both in plain text.
-/

namespace Telemetry.Http

/-- Why a request is not answered as it asks. -/
inductive Failure where
  | badRequest (message : String)
  | notFound (message : String)
  | unsupportedMediaType (message : String)
  | internal (message : String)
  deriving DecidableEq, Repr

namespace Failure

/-- The status of a failure. -/
def status : Failure → Status
  | .badRequest _ => .badRequest
  | .notFound _ => .notFound
  | .unsupportedMediaType _ => .unsupportedMediaType
  | .internal _ => .internalServerError

/-- What a failure says. -/
def message : Failure → String
  | .badRequest m | .notFound m | .unsupportedMediaType m | .internal m => m

/-- An error as a failure: what the client caused is a bad request unless there is a more fitting
status, all else is internal. -/
def ofError (e : Error) : Failure :=
  match e with
  | .contentType _ => .unsupportedMediaType e.message
  | .notFound _ => .notFound e.message
  | _ => if e.isClientError then .badRequest e.message else .internal e.message

/-- The response to a request that failed. -/
def toResponse (f : Failure) : Response :=
  .ofText f.status s!"{f.status.reason}: {f.message}"

end Failure

end Telemetry.Http
