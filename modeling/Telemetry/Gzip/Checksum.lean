import Telemetry.Bytes

/-!
# CRC-32

The checksum of gzip: the remainder of the data by the polynomial `0x04C11DB7`, lowest bit first,
with all bits of the register flipped at both ends.
-/

namespace Telemetry.Gzip

/-- The divisor, lowest bit first. -/
def polynomial : UInt32 := 0xEDB88320

/-- Divides one bit out of the register. -/
def crcBit (register : UInt32) : UInt32 :=
  if register &&& 1 = 1 then (register >>> 1) ^^^ polynomial else register >>> 1

/-- Divides `n` bits out of the register. -/
def crcBits : Nat → UInt32 → UInt32
  | 0, register => register
  | n + 1, register => crcBits n (crcBit register)

/-- Takes one byte into the register. -/
def crcByte (register : UInt32) (b : UInt8) : UInt32 :=
  crcBits 8 (register ^^^ b.toUInt32)

/-- The CRC-32 of a byte string. -/
def crc32 (bytes : Bytes) : UInt32 :=
  bytes.foldl crcByte 0xFFFFFFFF ^^^ 0xFFFFFFFF

end Telemetry.Gzip
