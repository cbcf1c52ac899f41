import Telemetry.Hex
import Telemetry.Json.Doc
import Telemetry.Value.Basic

/-!
# Values as documents

Booleans, doubles, strings, arrays and maps have a JSON form of their own. Integers, timestamps,
flags and byte strings are written under a tag, as text, because a JSON number would not keep
them exactly.
-/

namespace Telemetry

namespace Doc

/-- A signed integer under its tag. -/
def int (n : Int64) : Doc :=
  .envelope "_int" (toString n.toInt)

/-- An unsigned integer under the tag of integers. -/
def uint (n : UInt64) : Doc :=
  .envelope "_int" (toString n.toNat)

/-- A small count under the tag of integers. -/
def count (n : UInt32) : Doc :=
  .envelope "_int" (toString n.toNat)

/-- A time in nanoseconds under its tag. -/
def timestamp (t : UInt64) : Doc :=
  .envelope "_ts" (toString t.toNat)

/-- Flags under their tag, in hexadecimal without leading zeros. -/
def flags (f : UInt32) : Doc :=
  .envelope "_flg" (String.ofList (Nat.toDigits 16 f.toNat))

/-- A byte string under its tag, in hexadecimal. -/
def bytes (b : Bytes) : Doc :=
  .envelope "_byt" (String.ofList (Hex.ofBytes b))

end Doc

namespace Value

mutual

/-- A value as a document. -/
def toDoc : Value → Doc
  | .bool b => .bool b
  | .int n => .int n
  | .uint n => .uint n
  | .timestamp t => .timestamp t
  | .flags f => .flags f
  | .double x => .double x
  | .string s => .string s
  | .bytes b => .bytes b
  | .array items => .array (itemDocs items)
  | .map entries => .map (entryDocs entries)

/-- The items of an array as documents. -/
def itemDocs : List Value → List Doc
  | [] => []
  | v :: vs => toDoc v :: itemDocs vs

/-- The entries of a map as members. -/
def entryDocs : List (String × Value) → List (String × Doc)
  | [] => []
  | (k, v) :: rest => (k, toDoc v) :: entryDocs rest

end

end Value

/-- An attribute map as a document. -/
def Attributes.toDoc (m : Attributes) : Doc :=
  .map (Value.entryDocs m)

end Telemetry
