import Telemetry.Record.Origin

/-!
# Spans

A span as it is stored, with its events and links. Listings show the summary of a span only; its
detail adds the rest and leaves out every member that has its usual value.
-/

namespace Telemetry

/-- An annotation of a span at a point in time. -/
structure SpanEvent where
  name : String
  time : UInt64
  attr : Attributes
  dropped : UInt32

/-- A reference from a span to another one. -/
structure SpanLink where
  target : SpanRef
  attr : Attributes
  dropped : UInt32
  state : String

/-- What listings show of a span. -/
structure SpanSummary where
  parent : SpanId
  name : String
  /-- The name of the status code, empty if it is not set. -/
  status : String
  start : UInt64
  finish : UInt64

/-- A stored span. -/
structure Span where
  origin : Origin
  summary : SpanSummary
  kind : String
  statusMessage : String
  attr : Attributes
  dropped : UInt32
  state : String
  flags : UInt32
  events : List SpanEvent
  eventsDropped : UInt32
  links : List SpanLink
  linksDropped : UInt32

namespace SpanEvent

/-- An event as a document. -/
def toDoc (e : SpanEvent) : Doc :=
  .map ([("name", .string e.name)] ++
    Doc.memberIf (e.time != 0) "time" (.timestamp e.time) ++
    attributeMembers e.attr e.dropped)

end SpanEvent

namespace SpanLink

/-- A link as a document. -/
def toDoc (l : SpanLink) : Doc :=
  .map ([("span", l.target.toDoc)] ++
    attributeMembers l.attr l.dropped ++
    Doc.memberIf (l.state != "") "state" (.string l.state))

end SpanLink

namespace SpanSummary

/-- The members of a summary. -/
def members (s : SpanSummary) : List (String × Doc) :=
  Doc.memberIf s.parent.isPresent "parent" s.parent.toDoc ++
    [("name", .string s.name)] ++
    Doc.memberIf (s.status != "") "status" (.string s.status) ++
    [("start", .timestamp s.start), ("end", .timestamp s.finish)]

/-- A summary as a document. -/
def toDoc (s : SpanSummary) : Doc :=
  .map s.members

end SpanSummary

/-- The members that name what a record came from. -/
def Origin.members (o : Origin) : List (String × Doc) :=
  [("req", o.request.toDoc), ("res", o.resource.toDoc), ("scope", o.scope.toDoc)]

namespace Span

/-- The flags of a span whose parent is known to be local and that carries no trace flags. They
are the usual ones and are not written. -/
def usualFlags : UInt32 := 0x100

/-- A span as a document. -/
def toDoc (s : Span) : Doc :=
  .map (s.origin.members ++ s.summary.members ++
    [("kind", .string s.kind)] ++
    Doc.memberIf (s.statusMessage != "") "status.msg" (.string s.statusMessage) ++
    attributeMembers s.attr s.dropped ++
    Doc.memberIf (s.state != "") "state" (.string s.state) ++
    Doc.memberIf (s.flags != usualFlags) "flags" (.flags s.flags) ++
    Doc.memberIf (!s.events.isEmpty) "events" (.array (s.events.map SpanEvent.toDoc)) ++
    Doc.memberIf (s.eventsDropped != 0) "events.dropped" (.count s.eventsDropped) ++
    Doc.memberIf (!s.links.isEmpty) "links" (.array (s.links.map SpanLink.toDoc)) ++
    Doc.memberIf (s.linksDropped != 0) "links.dropped" (.count s.linksDropped))

end Span

/-- The spans of one trace by id. -/
abbrev Trace := Table (@Id.order .span) Span

/-- A trace as a document: the summaries of its spans. -/
def Trace.toDoc (trace : Trace) : Doc :=
  .map (trace.entries.map fun (id, span) => (id.hex, span.summary.toDoc))

end Telemetry
