import Telemetry.Record.Span

/-!
# Log records

A log record as it is stored, with the short form that listings show of it. The short form of a
long text is cut before its first line break, or at the last character boundary within
`summaryLimit` bytes, and the cut is marked.
-/

namespace Telemetry

/-- What listings show of a log record. -/
structure LogSummary where
  /-- The name of the severity, empty if it is not specified. -/
  severity : String
  time : UInt64
  body : String

/-- A stored log record. -/
structure LogRecord where
  summary : LogSummary
  origin : Origin
  time : UInt64
  observedTime : UInt64
  severityText : String
  event : String
  body : Option Value
  attr : Attributes
  dropped : UInt32
  flags : UInt32
  trace : TraceId
  span : SpanId

namespace LogSummary

/-- The most bytes that the short form keeps of a text. -/
def summaryLimit : Nat := 130

/-- What marks a cut. -/
def ellipsis : String := " [...]"

/-- The longest run of leading characters that fits into `room` bytes and has no line break. -/
def fitting (room : Nat) : List Char → List Char
  | [] => []
  | c :: rest =>
    if c = '\n' ∨ room < c.utf8Size then [] else c :: fitting (room - c.utf8Size) rest

/-- The short form of a text: the text itself if it fits whole, else what fits and the mark. -/
def shorten (s : String) : String :=
  let kept := fitting summaryLimit s.toList
  if kept.length = s.toList.length then s else String.ofList kept ++ ellipsis

/-- The text that stands for a log record in listings: its event name if it has one, else its
body. A body that is not a string is shown as JSON. -/
def bodyText (event : String) (body : Option Value) : String :=
  if event ≠ "" then event
  else match body with
    | some (.string s) => s
    | some other => other.toDoc.render
    | none => "<no body>"

/-- The short form of a log record's text. -/
def shownBody (event : String) (body : Option Value) : String :=
  shorten (bodyText event body)

/-- The time a listing shows: when it happened, else when it was observed, else `now`. -/
def shownTime (now time observed : UInt64) : UInt64 :=
  if time ≠ 0 then time else if observed ≠ 0 then observed else now

/-- A summary as a document. -/
def toDoc (s : LogSummary) : Doc :=
  .map [("time", .timestamp s.time), ("sev", .string s.severity), ("body", .string s.body)]

end LogSummary

namespace LogRecord

/-- Fills in text and time of the summary from the record itself. -/
def summarize (now : UInt64) (log : LogRecord) : LogRecord :=
  { log with
    summary :=
      { log.summary with
        body := LogSummary.shownBody log.event log.body
        time := LogSummary.shownTime now log.time log.observedTime } }

/-- The member for the span that a record belongs to, or for its trace alone. A span without a
trace is not shown. -/
def traceMembers (trace : TraceId) (span : SpanId) : List (String × Doc) :=
  if trace.isPresent then
    if span.isPresent then [("span", (SpanRef.mk trace span).toDoc)]
    else [("trace", .string trace.hex)]
  else []

/-- A log record as a document. -/
def toDoc (l : LogRecord) : Doc :=
  .map (l.origin.members ++
    Doc.memberIf (l.time != 0) "time" (.timestamp l.time) ++
    Doc.memberIf (l.observedTime != 0) "time.obs" (.timestamp l.observedTime) ++
    Doc.memberIf (l.summary.severity != "") "sev" (.string l.summary.severity) ++
    Doc.memberIf (l.severityText != "") "sev.text" (.string l.severityText) ++
    Doc.memberIf (l.event != "") "event" (.string l.event) ++
    Doc.member? "body" Value.toDoc l.body ++
    attributeMembers l.attr l.dropped ++
    Doc.memberIf (l.flags != 0) "flags" (.flags l.flags) ++
    traceMembers l.trace l.span)

end LogRecord

end Telemetry
