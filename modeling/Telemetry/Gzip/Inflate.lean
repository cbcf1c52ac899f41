import Telemetry.Gzip.PrefixCode

/-!
# Inflating

Compressed data is a run of blocks, the last of which is marked. A block holds bytes as they are,
or symbols of a fixed code, or symbols of a code that the block itself describes. A symbol is a
byte, the end of the block, or the length of a copy of earlier output.
-/

namespace Telemetry.Gzip

/-- The codes of a block: one for bytes and lengths, one for distances. -/
structure BlockCodes where
  symbols : PrefixCode
  distances : PrefixCode

namespace BlockCodes

/-- The codes of a block that describes none. -/
def fixed : BlockCodes :=
  { symbols := .ofLengths (List.replicate 144 8 ++ List.replicate 112 9 ++ List.replicate 24 7 ++
      List.replicate 8 8)
    distances := .ofLengths (List.replicate 32 5) }

/-- The order in which a description gives the lengths of its own code. -/
def descriptionOrder : List Nat :=
  [16, 17, 18, 0, 8, 7, 9, 6, 10, 5, 11, 4, 12, 3, 13, 2, 14, 1, 15]

/-- Reads `n` numbers of three bits. -/
def readTriples : Nat → BitReader (List Nat)
  | 0 => pure []
  | n + 1 => do
    let first ← BitReader.number 3
    let more ← readTriples n
    pure (first :: more)

/-- Reads a number of the given width and gives `smallest` more. -/
def readCount (smallest width : Nat) : BitReader Nat :=
  (· + smallest) <$> BitReader.number width

/-- Reads lengths until there are `total`. Symbols up to 15 are lengths, 16 repeats the length
before, 17 and 18 stand for runs of zeros. The lengths so far are given in reverse; each symbol
adds at least one, so `fuel` symbols are enough if it is `total`. -/
def readLengths (code : PrefixCode) (total : Nat) : Nat → List Nat → BitReader (List Nat)
  | 0, done => do
    BitReader.check (done.length == total)
    pure done.reverse
  | fuel + 1, done =>
    if total ≤ done.length then do
      BitReader.check (done.length == total)
      pure done.reverse
    else do
      match ← code.read with
      | 16 =>
        match done with
        | [] => failure
        | last :: _ => do
          let count ← readCount 3 2
          readLengths code total fuel (List.replicate count last ++ done)
      | 17 => do
        let count ← readCount 3 3
        readLengths code total fuel (List.replicate count 0 ++ done)
      | 18 => do
        let count ← readCount 11 7
        readLengths code total fuel (List.replicate count 0 ++ done)
      | length => readLengths code total fuel (length :: done)

/-- Reads the description of a block's codes. -/
def read : BitReader BlockCodes := do
  let symbolCount ← readCount 257 5
  let distanceCount ← readCount 1 5
  let lengthCount ← readCount 4 4
  BitReader.check (symbolCount ≤ 286 && distanceCount ≤ 30)
  -- First the code in which the lengths of the other two codes are written.
  let triples ← readTriples lengthCount
  let given := descriptionOrder.zip triples
  let own := (List.range 19).map fun symbol => (given.lookup symbol).getD 0
  BitReader.check (PrefixCode.isUsable own)
  -- A run of equal lengths may go on from one code into the other, so they are read together.
  let total := symbolCount + distanceCount
  let lengths ← readLengths (.ofLengths own) total total []
  let symbols := lengths.take symbolCount
  let distances := lengths.drop symbolCount
  BitReader.check (PrefixCode.isUsable symbols && PrefixCode.isUsable distances)
  pure ⟨.ofLengths symbols, .ofLengths distances⟩

end BlockCodes

/-- The least length that each length symbol stands for, from symbol 257 on, and the width of the
number that is added to it. -/
def lengthSteps : List (Nat × Nat) :=
  [(3, 0), (4, 0), (5, 0), (6, 0), (7, 0), (8, 0), (9, 0), (10, 0), (11, 1), (13, 1), (15, 1),
    (17, 1), (19, 2), (23, 2), (27, 2), (31, 2), (35, 3), (43, 3), (51, 3), (59, 3), (67, 4),
    (83, 4), (99, 4), (115, 4), (131, 5), (163, 5), (195, 5), (227, 5), (258, 0)]

/-- The least distance that each distance symbol stands for, and the width of the number that is
added to it. -/
def distanceSteps : List (Nat × Nat) :=
  [(1, 0), (2, 0), (3, 0), (4, 0), (5, 1), (7, 1), (9, 2), (13, 2), (17, 3), (25, 3), (33, 4),
    (49, 4), (65, 5), (97, 5), (129, 6), (193, 6), (257, 7), (385, 7), (513, 8), (769, 8),
    (1025, 9), (1537, 9), (2049, 10), (3073, 10), (4097, 11), (6145, 11), (8193, 12), (12289, 12),
    (16385, 13), (24577, 13)]

/-- Reads the number that step `i` of a table stands for. -/
def readStep (steps : List (Nat × Nat)) (i : Nat) : BitReader Nat :=
  match steps[i]? with
  | some (least, width) => BlockCodes.readCount least width
  | none => failure

/-- The byte `distance` bytes back. Before the start of the output there are zeros. -/
def byteBack (distance : Nat) (out : Array UInt8) : UInt8 :=
  if distance ≤ out.size then out.getD (out.size - distance) 0 else 0

/-- Copies `length` bytes from `distance` bytes back, one by one, so that a copy may overlap
itself. -/
def copyBack (distance : Nat) : Nat → Array UInt8 → Array UInt8
  | 0, out => out
  | length + 1, out => copyBack distance length (out.push (byteBack distance out))

/-- Reads the symbols of a block. Each takes at least one bit, so as much fuel as there are bits
is enough. -/
def readSymbols (codes : BlockCodes) : Nat → Array UInt8 → BitReader (Array UInt8)
  | 0, _ => failure
  | fuel + 1, out => do
    let symbol ← codes.symbols.read
    if symbol < 256 then readSymbols codes fuel (out.push (UInt8.ofNat symbol))
    else if symbol = 256 then pure out
    else do
      let length ← readStep lengthSteps (symbol - 257)
      let distance ← readStep distanceSteps (← codes.distances.read)
      readSymbols codes fuel (copyBack distance length out)

/-- Reads a block that holds bytes as they are. Their number is given twice, the second time with
all bits flipped. -/
def readStored (out : Array UInt8) : BitReader (Array UInt8) := do
  let size := Bytes.toNatReversed (← BitReader.wholeBytes 2)
  let flipped := Bytes.toNatReversed (← BitReader.wholeBytes 2)
  BitReader.check (size + flipped == 0xFFFF)
  let bytes ← BitReader.wholeBytes size
  pure (bytes.foldl Array.push out)

/-- Reads blocks up to the last one. -/
def readBlocks : Nat → Array UInt8 → BitReader (Array UInt8)
  | 0, _ => failure
  | fuel + 1, out => do
    let isLast ← BitReader.bit
    let out ← match ← BitReader.number 2 with
      | 0 => readStored out
      | 1 => readSymbols .fixed fuel out
      | 2 => do readSymbols (← BlockCodes.read) fuel out
      | _ => failure
    if isLast = 1 then pure out else readBlocks fuel out

/-- The output of the compressed data at the start of `bytes`, and the bytes behind it. -/
def inflate? (bytes : Bytes) : Option (Bytes × Bytes) :=
  let input : BitInput := ⟨[], bytes⟩
  (readBlocks input.size #[] input).map fun (out, input) => (out.toList, input.rest)

end Telemetry.Gzip
