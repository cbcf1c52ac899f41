import Telemetry.Bytes

/-!
# The running digest

Records are named by a 64-bit FNV-1a digest of their contents. A record feeds the bytes of its
fields into a running digest without lengths and without tags, so the order in which fields are
walked is part of its name. `Digest.write_append` says that it does not matter how the walk is
cut into writes.
-/

namespace Telemetry

/-- The state of a running 64-bit FNV-1a digest. -/
structure Digest where
  state : UInt64
  deriving DecidableEq, Repr

namespace Digest

/-- The digest of no bytes: the FNV offset basis. -/
def start : Digest := ⟨0xcbf29ce484222325⟩

/-- The FNV prime for 64 bits. It is odd, so multiplying by it loses nothing. -/
def prime : UInt64 := 0x100000001b3

/-- One step of FNV-1a: mix the byte in, then multiply. -/
def writeByte (d : Digest) (b : UInt8) : Digest :=
  ⟨(d.state ^^^ b.toUInt64) * prime⟩

/-- Feeds a byte string. -/
def write (d : Digest) (bytes : Bytes) : Digest :=
  bytes.foldl writeByte d

/-- Feeds one byte, 1 for true and 0 for false. -/
def writeBool (d : Digest) (b : Bool) : Digest :=
  d.write [b.toUInt8]

/-- Feeds a 32-bit word, most significant byte first. -/
def writeWord32 (d : Digest) (n : UInt32) : Digest :=
  d.write (Bytes.bigEndian 4 n.toNat)

/-- Feeds a 64-bit word, most significant byte first. -/
def writeWord64 (d : Digest) (n : UInt64) : Digest :=
  d.write (Bytes.bigEndian 8 n.toNat)

/-- Feeds the UTF-8 bytes of a text. -/
def writeText (d : Digest) (s : String) : Digest :=
  d.write (Text.utf8 s)

@[simp] theorem write_nil (d : Digest) : d.write [] = d := rfl

/-- **Writes may be cut anywhere.** -/
theorem write_append (d : Digest) (a b : Bytes) : d.write (a ++ b) = (d.write a).write b :=
  List.foldl_append

end Digest

end Telemetry
