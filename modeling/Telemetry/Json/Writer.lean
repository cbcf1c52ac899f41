import Telemetry.Hex
import Telemetry.Json.Doc

/-!
# Writing documents step by step

An object or an array is written while its members or items are still being found: the bracket that
opens it, the members one after the other, the bracket that closes it. A `JsonWriter` holds the text
so far and counts the members, so that it knows where a comma is due. What stands inside a member
has a writer of its own, which counts from zero and hands back nothing but the text.
-/

namespace Telemetry

/-- Appends a character inside a string literal. -/
def Text.pushEscaped (out : String) (c : Char) : String :=
  if c = '"' then out ++ "\\\""
  else if c = '\\' then out ++ "\\\\"
  else if c = '\r' then out ++ "\\r"
  else if c = '\n' then out ++ "\\n"
  else if c = '\t' then out ++ "\\t"
  else if c.toNat < 0x20 then out ++ "\\u" ++ String.ofList (Hex.word 4 c.toNat)
  else out.push c

/-- Appends a string literal. -/
def Text.pushLiteral (out s : String) : String :=
  (s.toList.foldl pushEscaped (out.push '"')).push '"'

/-- What has been written of an object or of an array. -/
structure JsonWriter where
  out : String
  /-- The number of its members or items so far. -/
  count : Nat

namespace JsonWriter

/-- Appends an object with the given members. -/
def writeObject (out : String) (members : JsonWriter → JsonWriter) : String :=
  (members ⟨out.push '\x7b', 0⟩).out.push '\x7d'

/-- Appends an array with the given items. -/
def writeArray (out : String) (items : JsonWriter → JsonWriter) : String :=
  (items ⟨out.push '[', 0⟩).out.push ']'

/-- Goes on to the next member or item, with a comma unless it is the first one. -/
def separator (w : JsonWriter) : JsonWriter :=
  ⟨if w.count ≠ 0 then w.out.push ',' else w.out, w.count + 1⟩

/-- Writes the name of the next member. -/
def key (w : JsonWriter) (name : String) : JsonWriter :=
  let next := w.separator
  let literal := Text.pushLiteral next.out (String.ofList (Doc.escapedName name.toList))
  ⟨literal.push ':', next.count⟩

/-- Writes a member, given what writes its value. -/
def pair (w : JsonWriter) (name : String) (value : String → String) : JsonWriter :=
  let next := w.key name
  ⟨value next.out, next.count⟩

/-- Writes a member that is an object. -/
def submap (w : JsonWriter) (name : String) (members : JsonWriter → JsonWriter) : JsonWriter :=
  w.pair name fun out => writeObject out members

/-- Writes a member that is an array. -/
def array (w : JsonWriter) (name : String) (items : JsonWriter → JsonWriter) : JsonWriter :=
  w.pair name fun out => writeArray out items

/-- Writes an item, given what writes it. -/
def item (w : JsonWriter) (value : String → String) : JsonWriter :=
  let next := w.separator
  ⟨value next.out, next.count⟩

/-- Writes an item that is an object. -/
def itemSubmap (w : JsonWriter) (members : JsonWriter → JsonWriter) : JsonWriter :=
  w.item fun out => writeObject out members

end JsonWriter

namespace Doc

mutual

/-- Appends a document. -/
def write : Doc → String → String
  | .bool b, out => out ++ (if b then "true" else "false")
  | .double x, out => out ++ String.ofList (doubleText x)
  | .string s, out => Text.pushLiteral out s
  | .tagged parts, out => out ++ String.ofList (text (.tagged parts))
  | .array items, out => JsonWriter.writeArray out (writeItems items)
  | .map members, out => JsonWriter.writeObject out (writeMembers members)

/-- Writes the items of an array. -/
def writeItems : List Doc → JsonWriter → JsonWriter
  | [], w => w
  | doc :: more, w => writeItems more (w.item (write doc))

/-- Writes the members of an object. -/
def writeMembers : List (String × Doc) → JsonWriter → JsonWriter
  | [], w => w
  | (name, doc) :: more, w => writeMembers more (w.pair name (write doc))

end

end Doc

end Telemetry
