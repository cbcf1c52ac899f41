import Telemetry.Http.Message
import Telemetry.Store.Ingest

/-!
# Deliveries over gRPC

A gRPC call carries an export request that is decoded already, with metadata instead of headers.
Metadata whose name ends with `-bin` is binary and is not kept.
-/

namespace Telemetry.Delivery

/-- How a call ends. -/
inductive CallResult where
  /-- The call succeeds with the given message. -/
  | ok (message : Bytes)
  | invalidArgument (text : String)
  deriving DecidableEq

/-- The name marks binary metadata. -/
def isBinaryName (name : String) : Bool :=
  "-bin".toList.isSuffixOf (Text.asciiLower name).toList

/-- What is kept of a call. -/
def grpcSender (peer : String) (metadata : List (String × Bytes)) : RequestMeta :=
  .withHeaders .grpc peer
    (Http.visibleHeaders (metadata.filter fun (name, _) => !isBinaryName name))

/-- Answers a call. The message of a call that succeeds has no fields, so no bytes. -/
def call (s : Store) (clock : Clock) (peer : String) (metadata : List (String × Bytes))
    (payload : Payload) : CallResult × Effect :=
  match s.ingest clock payload (grpcSender peer metadata) with
  | (.ok (), effect) => (.ok [], effect)
  | (.error e, effect) =>
    (.invalidArgument e.message, effect.warn (.rejected payload.signal peer e))

end Telemetry.Delivery
