import Telemetry.Bytes

/-!
# Bits and prefix codes

Compressed data is read bit by bit, the lowest bit of a byte first. A prefix code is given by the
length of every symbol's code word: shorter words come first, and words of one length are in the
order of their symbols. So a code is kept as the symbols of each length in turn, and a word is
read by following how far it stands behind the words that are already assigned.
-/

namespace Telemetry.Gzip

/-- What is left to read. -/
structure BitInput where
  /-- The bits left of the byte that was begun, the lowest first. -/
  begun : List Bool
  rest : Bytes

namespace BitInput

/-- The number of bits that are left. -/
def size (input : BitInput) : Nat :=
  input.begun.length + 8 * input.rest.length

/-- The bits of a byte, the lowest first. -/
def bitsOf (b : UInt8) : List Bool :=
  (List.range 8).map b.toNat.testBit

/-- The next bit and what is left after it. -/
def next? (input : BitInput) : Option (Bool × BitInput) :=
  match input.begun, input.rest with
  | bit :: begun, rest => some (bit, ⟨begun, rest⟩)
  | [], b :: rest => some (b.toNat.testBit 0, ⟨(bitsOf b).tail, rest⟩)
  | [], [] => none

end BitInput

/-- A reader of compressed data. It fails on data that is malformed or ends too early. -/
abbrev BitReader (α : Type) := StateT BitInput Option α

namespace BitReader

/-- Reads one bit as 0 or 1. -/
def bit : BitReader Nat := fun input =>
  input.next?.map fun (b, input) => (b.toNat, input)

/-- Reads a number of the given width, its lowest bit first. -/
def number : Nat → BitReader Nat
  | 0 => pure 0
  | width + 1 => do
    let low ← bit
    let high ← number width
    pure (low + 2 * high)

/-- Reads the rest of the byte that was begun and then `count` whole bytes. -/
def wholeBytes (count : Nat) : BitReader Bytes := fun input =>
  if input.rest.length < count then none
  else some (input.rest.take count, ⟨[], input.rest.drop count⟩)

/-- Fails unless the condition holds. -/
def check (condition : Bool) : BitReader Unit :=
  if condition then pure () else failure

end BitReader

/-- A prefix code: the symbols whose words have one bit, two bits and so on. -/
structure PrefixCode where
  levels : List (List Nat)

namespace PrefixCode

/-- The most bits that a code word has. -/
def maxLength : Nat := 15

/-- The code in which symbol `i` has a word of `lengths[i]` bits. Length 0 means that a symbol is
not used. -/
def ofLengths (lengths : List Nat) : PrefixCode :=
  let symbols := lengths.zipIdx
  ⟨(List.range maxLength).map fun n =>
    (symbols.filter fun (length, _) => length == n + 1).map Prod.snd⟩

/-- The words of the given lengths leave no string of bits undecided and none ambiguous, or there
is no word, or only one of a single bit. -/
def isUsable (lengths : List Nat) : Bool :=
  let used := lengths.filter (· != 0)
  used.isEmpty || used == [1] ||
    used.foldr (fun n total => (1 <<< (maxLength - n)) + total) 0 == 1 <<< maxLength

/-- Reads a word given how far the bits before stand behind the words of their length. -/
def readFrom : List (List Nat) → Nat → BitReader Nat
  | [], _ => failure
  | symbols :: longer, behind => do
    let bit ← BitReader.bit
    let place := 2 * behind + bit
    match symbols[place]? with
    | some symbol => pure symbol
    -- The bits are no word yet: one more is needed.
    | none => readFrom longer (place - symbols.length)

/-- Reads one symbol. -/
def read (code : PrefixCode) : BitReader Nat :=
  readFrom code.levels 0

end PrefixCode

end Telemetry.Gzip
