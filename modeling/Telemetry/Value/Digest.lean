import Telemetry.Digest
import Telemetry.Value.Basic

/-!
# The digest of a value

A value feeds its bytes into a running digest piece by piece (`Value.feed`). `Value.encoding` is
the flat byte string that the pieces amount to: neither lengths nor tags are written, arrays and
maps are the concatenation of their parts.
-/

namespace Telemetry

namespace Value

mutual

/-- Feeds a value into a running digest. -/
def feed (d : Digest) : Value → Digest
  | .bool b => d.writeBool b
  | .int n => d.writeWord64 n.toUInt64
  | .uint n => d.writeWord64 n
  | .timestamp t => d.writeWord64 t
  | .flags f => d.writeWord32 f
  | .double x => d.writeWord64 x.bits
  | .string s => d.writeText s
  | .bytes b => d.write b
  | .array items => feedItems d items
  | .map entries => feedEntries d entries

/-- Feeds the items of an array one after the other. -/
def feedItems (d : Digest) : List Value → Digest
  | [] => d
  | v :: vs => feedItems (feed d v) vs

/-- Feeds the entries of a map one after the other, key before value. -/
def feedEntries (d : Digest) : List (String × Value) → Digest
  | [] => d
  | (k, v) :: rest => feedEntries (feed (d.writeText k) v) rest

end

mutual

/-- The byte string a value amounts to. -/
def encoding : Value → Bytes
  | .bool b => [b.toUInt8]
  | .int n => Bytes.bigEndian 8 n.toUInt64.toNat
  | .uint n => Bytes.bigEndian 8 n.toNat
  | .timestamp t => Bytes.bigEndian 8 t.toNat
  | .flags f => Bytes.bigEndian 4 f.toNat
  | .double x => Bytes.bigEndian 8 x.bits.toNat
  | .string s => Text.utf8 s
  | .bytes b => b
  | .array items => itemsEncoding items
  | .map entries => entriesEncoding entries

/-- The items of an array one after the other. -/
def itemsEncoding : List Value → Bytes
  | [] => []
  | v :: vs => encoding v ++ itemsEncoding vs

/-- The entries of a map one after the other, key before value. -/
def entriesEncoding : List (String × Value) → Bytes
  | [] => []
  | (k, v) :: rest => Text.utf8 k ++ encoding v ++ entriesEncoding rest

end

/-- The digest of a value alone. -/
def digest (v : Value) : Digest :=
  v.feed .start

end Value

namespace Attributes

/-- Feeds an attribute map into a running digest. -/
def feed (d : Digest) (m : Attributes) : Digest :=
  Value.feedEntries d m

/-- The byte string an attribute map amounts to. -/
def encoding (m : Attributes) : Bytes :=
  Value.entriesEncoding m

/-- The digest of an attribute map alone. -/
def digest (m : Attributes) : Digest :=
  feed .start m

end Attributes

end Telemetry
