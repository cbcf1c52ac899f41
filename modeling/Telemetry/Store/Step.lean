import Telemetry.Store.Basic

/-!
# Steps

Whatever changes a store does so in steps, each of which sees and leaves a whole store. Several
senders are served at once by interleaving their steps in any order. A step may warn, and a store
that is verbose prints a line for every record; both are functions of the step and of the store it
finds.
-/

namespace Telemetry

/-- The three kinds of telemetry. -/
inductive Signal where
  | traces
  | logs
  | metrics
  deriving DecidableEq, Repr

/-- What a signal is called in messages. -/
def Signal.label : Signal → String
  | .traces => "trace"
  | .logs => "logs"
  | .metrics => "metrics"

/-- Something worth telling the operator. -/
inductive Warning where
  | repeatedSpan (span : SpanId)
  | noData (metric : String)
  | conflictingHeader (identity : MetricIdentity)
  | rejected (signal : Signal) (peer : String) (error : Error)

/-- The text of a warning. -/
def Warning.text : Warning → String
  | .repeatedSpan span => s!"span {span.hex} received twice"
  | .noData metric => s!"metric '{metric}' carries no data"
  | .conflictingHeader i =>
    s!"conflicting metadata for metric identity {i.id.hex}" ++
      s!" metric={i.name} kind={i.kind} unit={i.unit}"
  | .rejected signal peer error =>
    s!"Rejected {signal.label} export from {peer}: {error.message}"

/-- One change of a store, or a look at it. -/
inductive Step where
  | internRequest (r : RequestMeta)
  | internResource (r : Resource)
  | internScope (s : Scope)
  | commitSpan (ref : SpanRef) (span : Span)
  | commitLog (log : LogRecord)
  | commitMetric (identity : MetricIdentity) (description : String) (metadata : Attributes)
  | commitPoint (identity : MetricIdentity) (description : String)
      (metadata attr : Attributes) (point : Point)
  | showMetric (id : MetricId)
  | reset

namespace Step

/-- The store after a step. -/
def apply (s : Store) : Step → Store
  | .internRequest r => s.internRequest r
  | .internResource r => s.internResource r
  | .internScope c => s.internScope c
  | .commitSpan ref span => s.commitSpan ref span
  | .commitLog log => s.commitLog log
  | .commitMetric identity description metadata => s.commitMetric identity description metadata
  | .commitPoint identity description metadata attr point =>
    s.commitPoint identity description metadata attr point
  | .showMetric _ => s
  | .reset => .empty

/-- What a step warns about. -/
def warnings (s : Store) : Step → List Warning
  | .commitSpan ref _ => if (s.span? ref).isSome then [.repeatedSpan ref.span] else []
  | .commitMetric identity description metadata =>
    match s.metrics.get? identity.id with
    | some metric =>
      if metric.isFirstConflict description metadata then [.conflictingHeader identity] else []
    | none => []
  | _ => []

/-- The lines that a verbose store prints. -/
def lines (s : Store) : Step → List String
  | .internRequest r => ["req: " ++ r.toDoc.render]
  | .internResource r => ["res: " ++ r.toDoc.render]
  | .internScope c => ["  scope: " ++ c.toDoc.render]
  | .commitSpan _ span => ["    span: " ++ span.toDoc.render]
  | .commitLog log => ["    log: " ++ log.toDoc.render]
  | .showMetric id =>
    match s.metrics.get? id with
    | some metric => ["    metric: " ++ metric.toDoc.render]
    | none => []
  | _ => []

/-- The store after a run of steps. -/
def applyAll (s : Store) (steps : List Step) : Store :=
  steps.foldl apply s

theorem applyAll_append (s : Store) (a b : List Step) :
    applyAll s (a ++ b) = applyAll (applyAll s a) b :=
  List.foldl_append

/-- What a run of steps warns about, in order. -/
def allWarnings (s : Store) : List Step → List Warning
  | [] => []
  | step :: rest => step.warnings s ++ allWarnings (step.apply s) rest

/-- The lines that a verbose store prints during a run of steps. -/
def allLines (s : Store) : List Step → List String
  | [] => []
  | step :: rest => step.lines s ++ allLines (step.apply s) rest

end Step

end Telemetry
