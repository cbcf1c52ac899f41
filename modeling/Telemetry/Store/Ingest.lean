import Telemetry.Store.Batch

/-!
# Ingestion

A payload of any signal is either refused, and then the store stays as it was, or it is stored by
the steps of its batch.
-/

namespace Telemetry

/-- A decoded export request. -/
inductive Payload where
  | traces (request : Otlp.TraceExport)
  | logs (request : Otlp.LogExport)
  | metrics (request : Otlp.MetricExport)

namespace Payload

/-- The signal of a payload. -/
def signal : Payload → Signal
  | .traces _ => .traces
  | .logs _ => .logs
  | .metrics _ => .metrics

/-- What converting a payload warns about. -/
def warnings : Payload → List Warning
  | .metrics request => request.warnings
  | _ => []

/-- The number of items in each scope of each resource after conversion. -/
def shape (clock : Clock) : Payload → Except Error (List (List Nat))
  | .traces request => (request.toBatch Otlp.Span.prepare).map Batch.shape
  | .logs request => ((request.timed clock).toBatch Otlp.TimedLog.prepare).map Batch.shape
  | .metrics request => (request.toBatch Otlp.Metric.prepare).map Batch.shape

/-- The steps that store a payload received with the given request metadata. -/
def steps (clock : Clock) (sender : RequestMeta) : Payload → Except Error (List Step)
  | .traces request =>
    (request.toBatch Otlp.Span.prepare).map (Batch.steps PreparedSpan.commit sender)
  | .logs request =>
    ((request.timed clock).toBatch Otlp.TimedLog.prepare).map
      (Batch.steps LogRecord.commit sender)
  | .metrics request =>
    (request.toBatch Otlp.Metric.prepare).map (Batch.steps PreparedMetric.commit sender)

end Payload

/-- A store, and what was said on the way to it. -/
structure Effect where
  store : Store
  warnings : List Warning
  /-- What a verbose store prints. -/
  lines : List String

namespace Effect

/-- Nothing happened. -/
def none (s : Store) : Effect := ⟨s, [], []⟩

/-- The effect of a run of steps. -/
def ofSteps (s : Store) (steps : List Step) : Effect :=
  ⟨Step.applyAll s steps, Step.allWarnings s steps, Step.allLines s steps⟩

/-- The same effect with warnings in front of its own. -/
def after (warnings : List Warning) (e : Effect) : Effect :=
  { e with warnings := warnings ++ e.warnings }

/-- The same effect with one more warning at the end. -/
def warn (e : Effect) (w : Warning) : Effect :=
  { e with warnings := e.warnings ++ [w] }

end Effect

/-- Stores a payload, or refuses it and leaves the store as it was. -/
def Store.ingest (s : Store) (clock : Clock) (payload : Payload) (sender : RequestMeta) :
    Except Error Unit × Effect :=
  match payload.steps clock sender with
  | .ok steps => (.ok (), (Effect.ofSteps s steps).after payload.warnings)
  | .error e => (.error e, (Effect.none s).after payload.warnings)

end Telemetry
