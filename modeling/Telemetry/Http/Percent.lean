import Telemetry.Hex

/-!
# Percent-decoding

In a path, a percent sign and two hexadecimal digits stand for a byte. A percent sign that no two
digits follow stands for itself.
-/

namespace Telemetry.Http

/-- The percent sign. -/
def percent : UInt8 := 0x25

/-- The byte that two bytes of hexadecimal text denote. -/
def escapedByte? (high low : UInt8) : Option UInt8 :=
  match Hex.value? (Char.ofNat high.toNat), Hex.value? (Char.ofNat low.toNat) with
  | some h, some l => some (UInt8.ofNat (16 * h + l))
  | _, _ => none

/-- The bytes that the bytes of a path denote. -/
def percentDecode : Bytes → Bytes
  | b :: high :: low :: rest =>
    if b = percent then
      match escapedByte? high low with
      | some decoded => decoded :: percentDecode rest
      | none => b :: percentDecode (high :: low :: rest)
    else b :: percentDecode (high :: low :: rest)
  | bytes => bytes

/-- The text that a part of a path denotes, if it is valid UTF-8. -/
def decodedText? (part : List Char) : Option String :=
  (percentDecode (Text.utf8 (String.ofList part))).text?

end Telemetry.Http
