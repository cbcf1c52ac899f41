import Telemetry.Bytes
import Telemetry.Numeral

/-!
# Byte ranges

A request may ask for a part of a file by the numbers of its first and last bytes, or for so many
bytes at its end. An end behind that of the file is moved there. Several ranges may be asked for if
no two of them overlap.
-/

namespace Telemetry.Http

/-- A range that a request asks for. -/
inductive RangeWish where
  /-- From one byte on, up to another or to the end. -/
  | between (first : Nat) (last : Option Nat)
  /-- So many bytes at the end. -/
  | atEnd (count : Nat)
  deriving DecidableEq, Repr

/-- A range of bytes, first and last one included. -/
structure ByteRange where
  first : Nat
  last : Nat
  deriving DecidableEq, Repr

namespace RangeWish

/-- Reads the number of a byte: at most 64 bits, without a sign or leading zeros. -/
def number? (text : List Char) : Option Nat :=
  match text with
  | '0' :: _ :: _ => none
  | _ => (Numeral.number? text).filter (· < UInt64.size)

/-- Reads a range. -/
def parse? (text : List Char) : Option RangeWish := do
  let before := text.takeWhile (· ≠ '-')
  match text.drop before.length with
  | _ :: after =>
    if before = [] then (number? after).bind fun n => if n = 0 then none else some (.atEnd n)
    else do
      let first ← number? before
      if after = [] then some (.between first none) else some (.between first (← number? after))
  | [] => none

/-- The bytes of a file of the given size that are asked for. -/
def resolve? (size : Nat) (wish : RangeWish) : Option ByteRange :=
  let range : Option ByteRange := match wish with
    | .between first last => some ⟨first, min (last.getD (size - 1)) (size - 1)⟩
    | .atEnd count => if count ≤ size then some ⟨size - count, size - 1⟩ else none
  range.filter fun r => r.first ≤ r.last

end RangeWish

namespace ByteRange

/-- Two ranges have a byte in common. -/
def overlaps (a b : ByteRange) : Bool :=
  a.first ≤ b.last && b.first ≤ a.last

/-- No two of some ranges overlap. -/
def areApart : List ByteRange → Bool
  | [] => true
  | range :: rest => rest.all (fun other => !range.overlaps other) && areApart rest

/-- The part of a file that a range holds. -/
def slice (range : ByteRange) (content : Bytes) : Bytes :=
  (content.drop range.first).take (range.last - range.first + 1)

/-- The parts of a text between commas, those behind the first without blanks around them. -/
def parts (text : List Char) : List (List Char) :=
  let (current, more) := text.foldr
    (fun c (current, more) => if c = ',' then ([], current :: more) else (c :: current, more))
    ([], [])
  current :: more.map fun part => (Text.trim (String.ofList part)).toList

/-- Reads what a header asks for from a file of the given size. -/
def parseAll? (size : Nat) (header : String) : Option (List ByteRange) :=
  let unit := "bytes=".toList
  if unit.isPrefixOf header.toList then do
    let wishes ← (parts (header.toList.drop unit.length)).mapM RangeWish.parse?
    let ranges ← wishes.mapM (RangeWish.resolve? size)
    if areApart ranges then some ranges else none
  else none

end ByteRange

end Telemetry.Http
