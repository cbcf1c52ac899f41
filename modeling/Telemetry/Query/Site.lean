import Telemetry.FileName
import Telemetry.Http.Date
import Telemetry.Http.Message
import Telemetry.Http.Percent
import Telemetry.Http.Range

/-!
# Static files

Paths that are no route name the files of a directory. The parts of a path are the names of
directories and at last of a file; a directory stands for its `index.html`. A path that leads
upwards or that starts at the root of the file system names nothing. A request may ask for a part
of a file, or for the file only if it was or was not changed since some date.
-/

namespace Telemetry

/-- The files below a directory, each under the names that lead to it. -/
structure Site where
  files : List (List String × Bytes)
  /-- When the files were last changed, in seconds since the start of 1970. -/
  changed : Nat

/-- What stands at a place below a directory. -/
inductive SiteEntry where
  | file (content : Bytes)
  | directory

namespace Site

/-- The site of files whose names have slashes between the names of directories. -/
def ofFiles (files : List (String × Bytes)) (changed : Nat) : Site :=
  let places := files.map fun (path, content) =>
    ((FileName.parts path.toList).map String.ofList, content)
  ⟨places, changed⟩

/-- What stands at a place. The directory itself is always there. -/
def entry? (site : Site) (place : List String) : Option SiteEntry :=
  match site.files.lookup place with
  | some content => some (.file content)
  | none =>
    if place.isEmpty || site.files.any (fun (names, _) => place.isPrefixOf names) then
      some .directory
    else none

/-- The names in a path that is relative and does not lead upwards. -/
def place? (path : List Char) : Option (List String) :=
  if path.head? = some '/' then none
  else
    let names := (FileName.parts path).filter fun part => part ≠ [] ∧ part ≠ ['.']
    if names.contains ['.', '.'] then none else some (names.map String.ofList)

/-- The types of files by the ending of their names. -/
def types : List (String × String) :=
  [("html", "text/html"), ("htm", "text/html"), ("js", "text/javascript"),
    ("mjs", "text/javascript"), ("json", "application/json"), ("css", "text/css"),
    ("txt", "text/plain"), ("svg", "image/svg+xml"), ("png", "image/png"),
    ("jpg", "image/jpeg"), ("jpeg", "image/jpeg"), ("gif", "image/gif"), ("ico", "image/x-icon")]

/-- The ending of a name: what stands behind its last dot, if anything stands before that. -/
def ending (name : String) : String :=
  let reversed := name.toList.reverse
  match reversed.dropWhile (· ≠ '.') with
  | _ :: _ :: _ => String.ofList (reversed.takeWhile (· ≠ '.')).reverse
  | _ => ""

/-- The type of a file. -/
def typeOf (name : String) : String :=
  (types.lookup (Text.asciiLower (ending name))).getD "application/octet-stream"

/-- The date in a header. One that is malformed counts as missing. -/
def dateIn? (r : Http.Request) (header : String) : Option Nat := do
  let date ← Http.Date.parse? (← (← r.header? header).text?)
  some date.seconds

/-- The response that a condition of a request asks for, if it does not hold. -/
def conditionResponse? (site : Site) (r : Http.Request) : Option Http.Response :=
  if (dateIn? r "if-unmodified-since").any (· < site.changed) then
    some (.empty .preconditionFailed)
  else if (dateIn? r "if-modified-since").any (site.changed ≤ ·) then some (.empty .notModified)
  else none

/-- The response with the content of a file, or with the part that is asked for. Only the content
itself is left out where only the head of the response is asked for. -/
def contentResponse (r : Http.Request) (type : String) (content : Bytes) : Http.Response :=
  let shown := fun bytes => if r.method = .head then [] else bytes
  match (r.header? "range").bind Http.visible? with
  | none => .ofBody .ok type (shown content)
  | some range =>
    match Http.ByteRange.parseAll? content.length range with
    | some [range] => .ofBody .partialContent type (shown (range.slice content))
    | some _ =>
      .ofBody .rangeNotSatisfiable type (Text.utf8 "Cannot serve multipart range requests")
    | none => .ofBody .rangeNotSatisfiable type []

/-- The response with the file at a place. -/
def fileResponse (site : Site) (r : Http.Request) (place : List String) : Http.Response :=
  match site.entry? place with
  | some (.file content) =>
    (site.conditionResponse? r).getD (contentResponse r (typeOf (place.getLastD "")) content)
  | _ => .empty .notFound

/-- A name on the way to a place is too long to be looked up in the directory before it. -/
def hasLongName (site : Site) (place : List String) : Bool :=
  place.zipIdx.any fun (name, depth) =>
    FileName.nameLimit < FileName.size name.toList &&
      match site.entry? (place.take depth) with
      | some .directory => true
      | _ => false

/-- A place cannot be looked up because of its names. -/
def isFaulty (site : Site) (place : List String) : Bool :=
  place.any (fun name => name.toList.contains '\x00') ||
    FileName.pathLimit < FileName.size ("/".intercalate place).toList || site.hasLongName place

/-- The response to a request for a file. -/
def lookup (site : Site) (r : Http.Request) : Http.Response :=
  let path := r.path
  match (Http.decodedText? (path.dropWhile (· = '/'))).bind fun text => place? text.toList with
  | none => .empty .notFound
  | some place =>
    if site.isFaulty place then .empty .internalServerError
    else match site.entry? place with
      | some .directory =>
        -- The slash at the end is looked for in the path as it was sent.
        if path.getLast? = some '/' then site.fileResponse r (place ++ ["index.html"])
        else .empty .temporaryRedirect
      | _ => site.fileResponse r place

/-- Answers a request for a file. -/
def respond (site : Site) (r : Http.Request) : Http.Response :=
  match r.method with
  | .get | .head => site.lookup r
  | _ => .methodNotAllowed [.get, .head]

end Site

end Telemetry
