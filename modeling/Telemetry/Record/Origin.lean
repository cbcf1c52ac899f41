import Telemetry.Id
import Telemetry.Table
import Telemetry.Value.Digest
import Telemetry.Value.Json

/-!
# Where a record came from

Every record arrives in a request, from a resource, under an instrumentation scope. These three
are shared by many records, so each is stored once under the digest of its contents and records
hold the three ids. Request metadata is a normal form of the request's headers: names are
lower-cased and ascend, `content-length` is left out, and the values of one name stay in the
order they arrived in.
-/

namespace Telemetry

/-- The transport a request arrived on. -/
inductive Transport where
  | grpc
  | http
  deriving DecidableEq, Repr

/-- The name of a transport. -/
def Transport.name : Transport → String
  | .grpc => "grpc"
  | .http => "http"

/-- Header names, lower-cased and ascending, with their values in order of arrival. -/
abbrev Headers := Table Text.compareBytes (List String)

/-- What is kept of a request. -/
structure RequestMeta where
  transport : Transport
  /-- The address of the sender, empty if it is not known. -/
  peer : String
  /-- `none` if nothing is known about headers, which is not the same as no headers. -/
  headers : Option Headers

/-- The entity that telemetry is about. -/
structure Resource where
  attr : Attributes
  dropped : UInt32
  schema : String

/-- The instrumentation scope that produced telemetry. -/
structure Scope where
  name : String
  version : String
  attr : Attributes
  dropped : UInt32
  schema : String

/-- The ids of what a record came from. -/
structure Origin where
  request : RequestId
  resource : ResourceId
  scope : ScopeId
  deriving DecidableEq, Inhabited

namespace Headers

/-- The normal form of headers in order of arrival. -/
def ofList (headers : List (String × String)) : Headers :=
  let named := headers.map fun (name, value) => (Text.asciiLower name, value)
  let kept := named.filter fun (name, _) => name != "content-length"
  Table.ofPairs (fun value old => old.getD [] ++ [value]) kept

/-- Feeds every name and its values into a running digest. -/
def feed (d : Digest) (headers : Headers) : Digest :=
  headers.entries.foldl (fun d (name, values) => values.foldl Digest.writeText (d.writeText name)) d

/-- The byte string that headers amount to. -/
def encoding (headers : Headers) : Bytes :=
  headers.entries.flatMap fun (name, values) => Text.utf8 name ++ values.flatMap Text.utf8

/-- A name with one value has it as a string, any other name has an array. -/
def toDoc (headers : Headers) : Doc :=
  .map (headers.entries.map fun (name, values) =>
    match values with
    | [value] => (name, .string value)
    | _ => (name, .array (values.map .string)))

end Headers

namespace RequestMeta

/-- The metadata of a request with headers. -/
def withHeaders (transport : Transport) (peer : String) (headers : List (String × String)) :
    RequestMeta :=
  ⟨transport, peer, some (Headers.ofList headers)⟩

/-- The metadata of a request about whose headers nothing is known. -/
def bare (transport : Transport) (peer : String) : RequestMeta :=
  ⟨transport, peer, none⟩

/-- Feeds request metadata into a running digest. -/
def feed (d : Digest) (r : RequestMeta) : Digest :=
  let start := (d.writeText r.transport.name).writeText r.peer
  match r.headers with
  | some headers => headers.feed start
  | none => start

/-- The byte string that request metadata amounts to. -/
def encoding (r : RequestMeta) : Bytes :=
  Text.utf8 r.transport.name ++ Text.utf8 r.peer ++
    match r.headers with
    | some headers => headers.encoding
    | none => []

/-- The digest that names request metadata. -/
def id (r : RequestMeta) : RequestId :=
  .ofDigest (r.feed .start)

/-- Request metadata as a document. -/
def toDoc (r : RequestMeta) : Doc :=
  .map ([("transport", .string r.transport.name)] ++
    Doc.memberIf (r.peer != "") "peer" (.string r.peer) ++
    Doc.member? "headers" Headers.toDoc r.headers)

end RequestMeta

/-- The members for attributes and for the number of dropped attributes. -/
def attributeMembers (attr : Attributes) (dropped : UInt32) : List (String × Doc) :=
  Doc.memberIf (!attr.isEmpty) "attr" (Attributes.toDoc attr) ++
    Doc.memberIf (dropped != 0) "attr.dropped" (.count dropped)

namespace Resource

/-- A resource about which nothing is known. -/
def empty : Resource := ⟨[], 0, ""⟩

/-- Feeds a resource into a running digest. -/
def feed (d : Digest) (r : Resource) : Digest :=
  ((Attributes.feed d r.attr).writeWord32 r.dropped).writeText r.schema

/-- The byte string that a resource amounts to. -/
def encoding (r : Resource) : Bytes :=
  Attributes.encoding r.attr ++ Bytes.bigEndian 4 r.dropped.toNat ++ Text.utf8 r.schema

/-- The digest that names a resource. -/
def id (r : Resource) : ResourceId :=
  .ofDigest (r.feed .start)

/-- A resource as a document. -/
def toDoc (r : Resource) : Doc :=
  .map (attributeMembers r.attr r.dropped ++ Doc.memberIf (r.schema != "") "schema" (.string r.schema))

end Resource

namespace Scope

/-- A scope about which nothing is known. -/
def empty : Scope := ⟨"", "", [], 0, ""⟩

/-- Feeds a scope into a running digest. -/
def feed (d : Digest) (s : Scope) : Digest :=
  let named := (d.writeText s.name).writeText s.version
  ((Attributes.feed named s.attr).writeWord32 s.dropped).writeText s.schema

/-- The byte string that a scope amounts to. -/
def encoding (s : Scope) : Bytes :=
  Text.utf8 s.name ++ Text.utf8 s.version ++ Attributes.encoding s.attr ++
    Bytes.bigEndian 4 s.dropped.toNat ++ Text.utf8 s.schema

/-- The digest that names a scope. -/
def id (s : Scope) : ScopeId :=
  .ofDigest (s.feed .start)

/-- A scope as a document. -/
def toDoc (s : Scope) : Doc :=
  .map (Doc.memberIf (s.name != "") "name" (.string s.name) ++
    Doc.memberIf (s.version != "") "version" (.string s.version) ++
    attributeMembers s.attr s.dropped ++
    Doc.memberIf (s.schema != "") "schema" (.string s.schema))

end Scope

end Telemetry
