import Telemetry.Bytes

/-!
# The protobuf wire format

A message is a sequence of fields, each with a number and a value of one of a few wire types. This
module splits the bytes of a message into fields; what they mean is for readers of messages to
say. A group is only ever skipped, so all that is kept of it is how deep groups nest in it.
-/

namespace Telemetry.Protobuf

/-- The value of a field. -/
inductive WireValue where
  | varint (n : Nat)
  | fixed64 (bytes : Bytes)
  | delimited (bytes : Bytes)
  /-- A group, with the number of levels that skipping it goes down. -/
  | group (height : Nat)
  | fixed32 (bytes : Bytes)

/-- A field of a message. -/
structure WireField where
  number : Nat
  value : WireValue

/-- Reads seven bits a byte, least significant first, while the top bit is set. `place` is the
number of bytes before these; there are at most ten, and the tenth holds a single bit. -/
def varintFrom (place : Nat) : Bytes → Option (Nat × Bytes)
  | [] => none
  | b :: rest =>
    -- Nine bytes hold 63 bits, so the tenth must be 0 or 1.
    if place = 9 ∧ 2 ≤ b.toNat then none
    else if b.toNat < 128 then some (b.toNat, rest)
    else (varintFrom (place + 1) rest).map fun (n, tail) => (b.toNat - 128 + 128 * n, tail)

/-- Reads a number of up to 64 bits. -/
def varint? (input : Bytes) : Option (Nat × Bytes) :=
  varintFrom 0 input

/-- Reads the given number of bytes. -/
def take? : Nat → Bytes → Option (Bytes × Bytes)
  | 0, input => some ([], input)
  | _ + 1, [] => none
  | count + 1, b :: rest => (take? count rest).map fun (bytes, tail) => (b :: bytes, tail)

/-- Reads a field number, which is not zero, and the wire type. -/
def key? (input : Bytes) : Option (Nat × Nat × Bytes) :=
  match varint? input with
  | some (key, rest) => if UInt32.size ≤ key ∨ key / 8 = 0 then none else some (key / 8, key % 8, rest)
  | none => none

mutual

/-- Reads the value of a field. The fuel bounds the fields of groups. -/
def value? (fuel number wireType : Nat) (input : Bytes) : Option (WireValue × Bytes) :=
  match wireType with
  | 0 => (varint? input).map fun (n, rest) => (.varint n, rest)
  | 1 => (take? 8 input).map fun (b, rest) => (.fixed64 b, rest)
  | 2 =>
    match varint? input with
    | some (count, rest) => (take? count rest).map fun (b, rest) => (.delimited b, rest)
    | none => none
  | 3 =>
    match fuel with
    | 0 => none
    | fuel + 1 => (group? fuel number input).map fun (height, rest) => (.group height, rest)
  | 5 => (take? 4 input).map fun (b, rest) => (.fixed32 b, rest)
  | _ => none

/-- Reads the fields of a group up to the mark that ends it. -/
def group? (fuel number : Nat) (input : Bytes) : Option (Nat × Bytes) :=
  match fuel with
  | 0 => none
  | fuel + 1 =>
    match key? input with
    | none => none
    | some (inner, wireType, rest) =>
      if wireType = 4 then if inner = number then some (0, rest) else none
      else
        match value? fuel inner wireType rest with
        | none => none
        | some (value, rest) =>
          let height := match value with
            | .group h => h + 1
            | _ => 1
          (group? fuel number rest).map fun (others, rest) => (max height others, rest)

end

/-- Reads the fields of a message. The fuel bounds fields and the steps within groups. -/
def fieldsFrom : Nat → Bytes → Option (List WireField)
  | _, [] => some []
  | 0, _ => none
  | fuel + 1, input =>
    match key? input with
    | none => none
    | some (number, wireType, rest) =>
      match value? fuel number wireType rest with
      | none => none
      | some (value, rest) => (fieldsFrom fuel rest).map (⟨number, value⟩ :: ·)

/-- The fields of a message in order. Every field takes at least one byte, and a field of a group
takes two steps. -/
def fields? (input : Bytes) : Option (List WireField) :=
  fieldsFrom (2 * input.length + 2) input

/-! ### Messages -/

/-- How deep messages and groups may nest. -/
def maxDepth : Nat := 100

/-- What a reader of a message does with one field, given how many levels may still be entered:
it changes what has been read so far, or refuses. -/
abbrev Merge (α : Type) := Nat → α → WireField → Option α

/-- Merges the fields of a message into what has been read before. -/
def mergeFields {α : Type} (merge : α → WireField → Option α) (a : α) (input : Bytes) : Option α :=
  (fields? input).bind fun fields => fields.foldlM merge a

/-- Merges a sub-message, one level further down. -/
def submessage {α : Type} (merge : Merge α) (levels : Nat) (a : α) : WireValue → Option α
  | .delimited b =>
    match levels with
    | 0 => none
    | levels + 1 => mergeFields (merge levels) a b
  | _ => none

/-- Passes over a field that the message does not have. -/
def skip {α : Type} (levels : Nat) (a : α) (value : WireValue) : Option α :=
  let height := match value with
    | .group h => h + 1
    | _ => 1
  if height ≤ levels then some a else none

/-- Appends the item that the value of a field holds. -/
def append {ι : Type} (read : WireValue → Option ι) (items : List ι) (value : WireValue) :
    Option (List ι) :=
  (read value).map fun item => items ++ [item]

/-- Reads a whole message. -/
def decode? {α : Type} (merge : Merge α) (initial : α) (input : Bytes) : Option α :=
  mergeFields (merge maxDepth) initial input

/-! ### Scalars -/

/-- A byte string. -/
def bytes? : WireValue → Option Bytes
  | .delimited b => some b
  | _ => none

/-- A text. -/
def text? : WireValue → Option String
  | .delimited b => b.text?
  | _ => none

/-- A truth value: anything but zero is true. -/
def bool? : WireValue → Option Bool
  | .varint n => some (n != 0)
  | _ => none

/-- An unsigned 32-bit integer: the low bits count. -/
def word32? : WireValue → Option UInt32
  | .varint n => some n.toUInt32
  | _ => none

/-- An unsigned 64-bit integer. -/
def word64? : WireValue → Option UInt64
  | .varint n => some n.toUInt64
  | _ => none

/-- A signed 32-bit integer: the low bits count. -/
def int32? (value : WireValue) : Option Int32 :=
  (word32? value).map UInt32.toInt32

/-- A signed 64-bit integer. -/
def int64? (value : WireValue) : Option Int64 :=
  (word64? value).map UInt64.toInt64

/-- A signed 32-bit integer in which the lowest bit is the sign. -/
def zigzag32? (value : WireValue) : Option Int32 :=
  (word32? value).map fun n =>
    let half := (n.toNat / 2 : Int)
    Int32.ofInt (if n.toNat % 2 = 0 then half else -half - 1)

/-- Four bytes, least significant first. -/
def fixed32? : WireValue → Option UInt32
  | .fixed32 b => some b.toNatReversed.toUInt32
  | _ => none

/-- Eight bytes, least significant first. -/
def fixed64? : WireValue → Option UInt64
  | .fixed64 b => some b.toNatReversed.toUInt64
  | _ => none

/-- Splits bytes into words of eight. -/
def packed64? : Nat → Bytes → Option (List UInt64)
  | _, [] => some []
  | 0, _ => none
  | fuel + 1, b =>
    match take? 8 b with
    | some (word, rest) => (packed64? fuel rest).map (word.toNatReversed.toUInt64 :: ·)
    | none => none

/-- Splits bytes into numbers of variable length. -/
def packedVarints? : Nat → Bytes → Option (List UInt64)
  | _, [] => some []
  | 0, _ => none
  | fuel + 1, b =>
    match varint? b with
    | some (n, rest) => (packedVarints? fuel rest).map (n.toUInt64 :: ·)
    | none => none

/-- One element of a list of 64-bit words, or several packed together. -/
def fixed64s? : WireValue → Option (List UInt64)
  | .delimited b => packed64? b.length b
  | value => (fixed64? value).map fun n => [n]

/-- One element of a list of numbers of variable length, or several packed together. -/
def varints? : WireValue → Option (List UInt64)
  | .delimited b => packedVarints? b.length b
  | value => (word64? value).map fun n => [n]

end Telemetry.Protobuf
