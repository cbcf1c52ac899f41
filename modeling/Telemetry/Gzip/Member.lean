import Telemetry.Gzip.Checksum
import Telemetry.Gzip.Inflate

/-!
# Gzip members

A member is a header, compressed data, and a trailer with the CRC-32 and the size of the output.
All three have to be right. Only the first member of a byte string counts: what stands behind its
trailer is not looked at.
-/

namespace Telemetry.Gzip

/-- A field of a header that may be left out. Its flag is a bit of the fourth byte. -/
inductive HeaderField where
  | checksum
  | extra
  | name
  | comment
  deriving DecidableEq

/-- The bit that says whether a field is there. -/
def HeaderField.flag : HeaderField → Nat
  | .checksum => 1
  | .extra => 2
  | .name => 3
  | .comment => 4

/-- The most bytes that a name or a comment has. -/
def textLimit : Nat := 65535

/-- Skips a text that ends with a zero byte and has at most `room` bytes before it. -/
def skipText : Nat → Bytes → Option Bytes
  | _, [] => none
  | room, b :: rest =>
    if b = 0 then some rest
    else match room with
      | 0 => none
      | room + 1 => skipText room rest

/-- Skips a field that starts with its size in two bytes. -/
def skipSized : Bytes → Option Bytes
  | low :: high :: rest =>
    let size := Bytes.toNatReversed [low, high]
    if rest.length < size then none else some (rest.drop size)
  | _ => none

/-- Skips the checksum of a header, the low half of the CRC-32 of all bytes before it. -/
def skipChecksum (before : Bytes) : Bytes → Option Bytes
  | low :: high :: rest =>
    if Bytes.toNatReversed [low, high] = (crc32 before).toNat % 65536 then some rest else none
  | _ => none

/-- Skips a field of the header that started at `whole` and still goes on at `rest`. -/
def HeaderField.skip (whole rest : Bytes) : HeaderField → Option Bytes
  | .extra => skipSized rest
  | .name | .comment => skipText textLimit rest
  | .checksum => skipChecksum (whole.take (whole.length - rest.length)) rest

/-- What stands behind the header at the start of `bytes`. -/
def afterHeader? (bytes : Bytes) : Option Bytes :=
  match bytes with
  | 0x1F :: 0x8B :: 8 :: flags :: _ :: _ :: _ :: _ :: _ :: _ :: rest =>
    -- The three bits that have no meaning must be zero.
    if flags.toNat < 32 then
      [HeaderField.extra, .name, .comment, .checksum].foldlM (m := Option)
        (fun rest field =>
          if flags.toNat.testBit field.flag then field.skip bytes rest else some rest)
        rest
    else none
  | _ => none

/-- The trailer at the start of `bytes` fits the output. -/
def isTrailer (out bytes : Bytes) : Bool :=
  8 ≤ bytes.length &&
    Bytes.toNatReversed (bytes.take 4) == (crc32 out).toNat &&
    Bytes.toNatReversed ((bytes.drop 4).take 4) == out.length % UInt32.size

/-- The output of the first member of a byte string. -/
def decode? (bytes : Bytes) : Option Bytes := do
  let data ← afterHeader? bytes
  let (out, trailer) ← inflate? data
  if isTrailer out trailer then some out else none

end Telemetry.Gzip
