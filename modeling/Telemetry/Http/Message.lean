import Telemetry.Bytes

/-!
# HTTP messages

A request as it reaches a handler and the response that the handler gives. The value of a header
is a byte string; it is text only if it is visible ASCII. A response keeps its body as it is
before compression.
-/

namespace Telemetry.Http

/-- The method of a request. -/
inductive Method where
  | get
  | head
  | post
  | other (name : String)
  deriving DecidableEq, Repr

namespace Method

/-- The method of a name. Names are case-sensitive. -/
def ofName (name : String) : Method :=
  if name = "GET" then .get
  else if name = "HEAD" then .head
  else if name = "POST" then .post
  else .other name

/-- The name of a method. -/
def name : Method → String
  | .get => "GET"
  | .head => "HEAD"
  | .post => "POST"
  | .other name => name

end Method

/-- A request. -/
structure Request where
  method : Method
  /-- The path and what follows it. A scheme and an authority may stand in front. -/
  target : String
  headers : List (String × Bytes)
  body : Bytes
  /-- The address of the sender, empty if it is not known. -/
  peer : String

/-- A byte of visible text: a printable ASCII character, a space or a tab. -/
def isVisible (b : UInt8) : Bool :=
  b == 9 || (32 ≤ b && b ≤ 126)

/-- The text of a header value, if it is visible ASCII. -/
def visible? (value : Bytes) : Option String :=
  if value.all isVisible then value.text? else none

/-- The headers whose values are visible ASCII. -/
def visibleHeaders (headers : List (String × Bytes)) : List (String × String) :=
  headers.filterMap fun (name, value) => (visible? value).map fun text => (name, text)

namespace Request

/-- A character of a scheme. -/
def isSchemeChar (c : Char) : Bool :=
  c.isAlphanum || c == '+' || c == '-' || c == '.'

/-- The end of an authority or of a path. -/
def isEnd (c : Char) : Bool :=
  c == '?' || c == '#'

/-- What follows the scheme and the authority of a target, if it starts with them. -/
def afterAuthority? (target : List Char) : Option (List Char) :=
  match target.dropWhile isSchemeChar with
  | ':' :: '/' :: '/' :: rest => some (rest.dropWhile fun c => !(c == '/' || isEnd c))
  | _ => none

/-- The path: the target up to the query, behind the authority if there is one. It is not empty
then. -/
def path (r : Request) : List Char :=
  let target := r.target.toList
  match afterAuthority? target with
  | some rest =>
    let path := rest.takeWhile fun c => !isEnd c
    if path = [] then ['/'] else path
  | none => target.takeWhile fun c => !isEnd c

/-- The first value of a header. Names are compared without regard to case. -/
def header? (r : Request) (name : String) : Option Bytes :=
  (r.headers.find? fun (given, _) => Text.sameIgnoringCase given name).map Prod.snd

end Request

/-- How a response turns out. -/
inductive Status where
  | ok
  | partialContent
  | notModified
  | temporaryRedirect
  | badRequest
  | notFound
  | methodNotAllowed
  | preconditionFailed
  | unsupportedMediaType
  | rangeNotSatisfiable
  | internalServerError
  deriving DecidableEq, Repr

namespace Status

/-- The number of a status. -/
def code : Status → Nat
  | .ok => 200
  | .partialContent => 206
  | .notModified => 304
  | .temporaryRedirect => 307
  | .badRequest => 400
  | .notFound => 404
  | .methodNotAllowed => 405
  | .preconditionFailed => 412
  | .unsupportedMediaType => 415
  | .rangeNotSatisfiable => 416
  | .internalServerError => 500

/-- The words for a status. -/
def reason : Status → String
  | .ok => "OK"
  | .partialContent => "Partial Content"
  | .notModified => "Not Modified"
  | .temporaryRedirect => "Temporary Redirect"
  | .badRequest => "Bad Request"
  | .notFound => "Not Found"
  | .methodNotAllowed => "Method Not Allowed"
  | .preconditionFailed => "Precondition Failed"
  | .unsupportedMediaType => "Unsupported Media Type"
  | .rangeNotSatisfiable => "Range Not Satisfiable"
  | .internalServerError => "Internal Server Error"

end Status

/-- A response. -/
structure Response where
  status : Status
  contentType : Option String
  /-- The methods that the path has, where the request had another one. -/
  allow : List Method
  /-- The body is sent compressed with gzip. -/
  isCompressed : Bool
  body : Bytes
  deriving DecidableEq

namespace Response

/-- A response without a body. -/
def empty (status : Status) : Response :=
  { status, contentType := none, allow := [], isCompressed := false, body := [] }

/-- The response to a method that the path does not have. -/
def methodNotAllowed (allow : List Method) : Response :=
  { Response.empty .methodNotAllowed with allow }

/-- A response with a body of the given type. -/
def ofBody (status : Status) (contentType : String) (body : Bytes) : Response :=
  { Response.empty status with contentType := some contentType, body }

/-- A response whose body is plain text. -/
def ofText (status : Status) (text : String) : Response :=
  .ofBody status "text/plain; charset=utf-8" (Text.utf8 text)

/-- The response to a request for the head alone. -/
def withoutBody (r : Response) : Response :=
  { r with body := [] }

end Response

end Telemetry.Http
