import Telemetry.Bytes

/-!
# Base64

The standard alphabet of RFC 4648 with padding. Only canonical texts are read: the length is a
multiple of four, padding stands only at the end, and the bits that padding leaves over are zero.
-/

namespace Telemetry.Base64

/-- The value of a character of the alphabet. -/
def value? (c : Char) : Option Nat :=
  if 'A' ≤ c ∧ c ≤ 'Z' then some (c.toNat - 'A'.toNat)
  else if 'a' ≤ c ∧ c ≤ 'z' then some (c.toNat - 'a'.toNat + 26)
  else if '0' ≤ c ∧ c ≤ '9' then some (c.toNat - '0'.toNat + 52)
  else if c = '+' then some 62
  else if c = '/' then some 63
  else none

/-- The bytes of a group of two characters and two signs of padding. -/
def pair? (a b : Char) : Option Bytes :=
  match value? a, value? b with
  | some a, some b => if b % 16 = 0 then some [UInt8.ofNat (4 * a + b / 16)] else none
  | _, _ => none

/-- The bytes of a group of three characters and one sign of padding. -/
def triple? (a b c : Char) : Option Bytes :=
  match value? a, value? b, value? c with
  | some a, some b, some c =>
    if c % 4 = 0 then
      some [UInt8.ofNat (4 * a + b / 16), UInt8.ofNat (16 * (b % 16) + c / 4)]
    else none
  | _, _, _ => none

/-- The bytes of a group of four characters. -/
def group? (a b c d : Char) : Option Bytes :=
  match value? a, value? b, value? c, value? d with
  | some a, some b, some c, some d =>
    some [UInt8.ofNat (4 * a + b / 16), UInt8.ofNat (16 * (b % 16) + c / 4),
      UInt8.ofNat (64 * (c % 4) + d)]
  | _, _, _, _ => none

/-- The bytes that a base64 text denotes. -/
def decode? : List Char → Option Bytes
  | [] => some []
  | a :: b :: c :: d :: rest =>
    if rest.isEmpty ∧ d = '=' then
      if c = '=' then pair? a b else triple? a b c
    else
      match group? a b c d, decode? rest with
      | some bytes, some more => some (bytes ++ more)
      | _, _ => none
  | _ => none

end Telemetry.Base64
