import Telemetry.Digest
import Telemetry.Error
import Telemetry.Hex
import Telemetry.Json.Doc

/-!
# Identifiers

Traces and spans are named by their senders, everything else by a digest of its contents. All
identifiers are numbers of a fixed width: they are shown as that many lower-case hexadecimal
digits and ordered by number, which is the order of their bytes and of their texts. The zero of a
trace or span id means that there is none.
-/

namespace Telemetry

/-- What an identifier names. -/
inductive IdKind where
  | trace
  | span
  | request
  | resource
  | scope
  | metric
  | stream
  deriving DecidableEq, Repr

namespace IdKind

/-- The number of bytes of an identifier. -/
def width : IdKind → Nat
  | .trace => 16
  | _ => 8

/-- What an identifier is called in messages. -/
def noun : IdKind → String
  | .trace => "trace id"
  | .span => "span id"
  | .request => "request id"
  | .resource => "resource id"
  | .scope => "scope id"
  | .metric => "metric id"
  | .stream => "stream id"

theorem size_le_capacity (kind : IdKind) : UInt64.size ≤ Bytes.capacity kind.width := by
  cases kind <;> decide

end IdKind

/-- An identifier: a number of `kind.width` bytes. -/
structure Id (kind : IdKind) where
  number : Nat
  isLt : number < Bytes.capacity kind.width
  deriving DecidableEq

/-- The id of a trace. -/
abbrev TraceId := Id .trace
/-- The id of a span within its trace. -/
abbrev SpanId := Id .span
/-- The digest of request metadata. -/
abbrev RequestId := Id .request
/-- The digest of a resource. -/
abbrev ResourceId := Id .resource
/-- The digest of an instrumentation scope. -/
abbrev ScopeId := Id .scope
/-- The digest of a metric identity. -/
abbrev MetricId := Id .metric
/-- The digest of the attributes of a metric stream. -/
abbrev StreamId := Id .stream

namespace Id

variable {kind : IdKind}

/-- The id that means "none". -/
def zero : Id kind := ⟨0, Bytes.capacity_pos _⟩

instance : Inhabited (Id kind) := ⟨zero⟩

/-- The id is not zero. -/
def isPresent (id : Id kind) : Bool :=
  id.number != 0

/-- Ids are ordered by number. -/
def order (a b : Id kind) : Ordering :=
  compare a.number b.number

instance : Std.TransCmp (@order kind) where
  eq_swap {a b} :=
    show compare a.number b.number = (compare b.number a.number).swap from Std.OrientedCmp.eq_swap
  isLE_trans {a _ c} h₁ h₂ :=
    show (compare a.number c.number).isLE from @Std.TransCmp.isLE_trans _ compare _ _ _ _ h₁ h₂

instance : Std.LawfulEqCmp (@order kind) where
  compare_self {a} := show compare a.number a.number = .eq from Std.ReflCmp.compare_self
  eq_of_compare {a b} h := by
    have numbers : a.number = b.number := @Std.LawfulEqCmp.eq_of_compare _ compare _ _ _ h
    cases a
    cases b
    simp_all

/-- The id whose number is the state of a digest. -/
def ofDigest (d : Digest) : Id kind :=
  ⟨d.state.toNat, Nat.lt_of_lt_of_le d.state.toNat_lt_size (IdKind.size_le_capacity kind)⟩

/-- The digits of an id. -/
def digits (id : Id kind) : List Char :=
  Hex.word (2 * kind.width) id.number

/-- An id as it is shown. -/
def hex (id : Id kind) : String :=
  String.ofList id.digits

/-- The bytes of an id, most significant first. -/
def bytes (id : Id kind) : Bytes :=
  Bytes.bigEndian kind.width id.number

/-- Reads an id from exactly as many hexadecimal digits as it is shown with. -/
def parse? (text : List Char) : Option (Id kind) :=
  if text.length = 2 * kind.width then
    match Hex.number? text with
    | some n => if h : n < Bytes.capacity kind.width then some ⟨n, h⟩ else none
    | none => none
  else none

/-- Reads an id or says that the text is none. -/
def parse (text : String) : Except Error (Id kind) :=
  match parse? text.toList with
  | some id => .ok id
  | none => .error (.badRequest s!"invalid {kind.noun} '{text}'")

/-- The error for an id of the wrong length. -/
def wrongLength (kind : IdKind) (got : Nat) : Error :=
  .payload s!"{kind.noun} must be {kind.width} bytes, got {got}"

/-- The id that a payload carries as bytes. No bytes at all mean the zero id; any other length
than that of the id makes the payload malformed. -/
def ofBytes (bytes : Bytes) : Except Error (Id kind) :=
  if bytes = [] then .ok zero
  else if bytes.length = kind.width then
    .ok ⟨Bytes.toNat bytes % Bytes.capacity kind.width, Nat.mod_lt _ (Bytes.capacity_pos _)⟩
  else .error (wrongLength kind bytes.length)

/-- Feeds an id's bytes into a running digest. -/
def feed (d : Digest) (id : Id kind) : Digest :=
  d.write id.bytes

end Id

/-- The tag a single id is written under. -/
def IdKind.tag : IdKind → String
  | .trace => "_trace"
  | .span => "_span"
  | .request => "_req"
  | .resource => "_res"
  | .scope => "_scope"
  | .metric => "_metric"
  | .stream => "_stream"

/-- An id as a document. -/
def Id.toDoc {kind : IdKind} (id : Id kind) : Doc :=
  .envelope kind.tag id.hex

/-- A span of a trace. -/
structure SpanRef where
  trace : TraceId
  span : SpanId
  deriving DecidableEq

/-- A reference to a span as a document: the span first. -/
def SpanRef.toDoc (ref : SpanRef) : Doc :=
  .tagged [(IdKind.span.tag, ref.span.hex), (IdKind.trace.tag, ref.trace.hex)]

end Telemetry
