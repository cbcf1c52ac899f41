import Telemetry.Json.Number

/-!
# Reading trees

Readers of a JSON tree for values of known shape. Containers may nest 127 deep; the room that is
left goes down by one with every container that is entered. A record is an object, or an array
that gives its fields in order, the last of which may be missing unless the record is a complete
one. Members nobody asks for are ignored without a look, a field that is given twice is an error.
An open record has members besides its fields that are looked at later, so they have to be
readable as a whole.
-/

namespace Telemetry.Json

/-- How deep containers may nest. -/
def maxDepth : Nat := 127

/-- A text. -/
def text? : Json → Option String
  | .string s => s
  | _ => none

/-- A truth value. -/
def bool? : Json → Option Bool
  | .bool b => some b
  | _ => none

/-- An integer from `low` to `high`. -/
def intBetween? (low high : Int) : Json → Option Int
  | .number n => n.int?.filter fun i => decide (low ≤ i ∧ i ≤ high)
  | _ => none

/-- A signed 32-bit integer. -/
def int32? (j : Json) : Option Int32 :=
  (intBetween? Int32.minValue.toInt Int32.maxValue.toInt j).map Int32.ofInt

/-- A signed 64-bit integer. -/
def int64? (j : Json) : Option Int64 :=
  (intBetween? Int64.minValue.toInt Int64.maxValue.toInt j).map Int64.ofInt

/-- An unsigned 32-bit integer. -/
def word32? (j : Json) : Option UInt32 :=
  (intBetween? 0 (UInt32.size - 1) j).map fun i => i.toNat.toUInt32

/-- An unsigned 64-bit integer. -/
def word64? (j : Json) : Option UInt64 :=
  (intBetween? 0 (UInt64.size - 1) j).map fun i => i.toNat.toUInt64

/-- A double, from any number literal within range. -/
def double? : Json → Option Double
  | .number n => n.double?
  | _ => none

/-- A value or `null`. -/
def nullable? {α : Type} (read : Json → Option α) : Json → Option (Option α)
  | .null => some none
  | j => (read j).map some

/-- A list. -/
def list? {α : Type} (read : Nat → Json → Option α) : Nat → Json → Option (List α)
  | room + 1, .array items => items.mapM (read room)
  | _, _ => none

mutual

/-- The value can be read as a whole: its strings are Unicode text, its numbers are in range, and
its containers fit the room. -/
def isReadable : Nat → Json → Bool
  | _, .null => true
  | _, .bool _ => true
  | _, .number n => n.double?.isSome
  | _, .string s => s.isSome
  | 0, .array _ => false
  | room + 1, .array items => itemsReadable room items
  | 0, .object _ => false
  | room + 1, .object members => membersReadable room members

/-- All items can be read. -/
def itemsReadable : Nat → List Json → Bool
  | _, [] => true
  | room, j :: rest => isReadable room j && itemsReadable room rest

/-- All names and values can be read. -/
def membersReadable : Nat → List (Option String × Json) → Bool
  | _, [] => true
  | room, (name, j) :: rest => name.isSome && isReadable room j && membersReadable room rest

end

/-- The fields of a record that are given. -/
abbrev Fields := List (String × Json)

namespace Fields

/-- The value that is given for a field. -/
def get? (fields : Fields) (name : String) : Option Json :=
  List.lookup name fields

/-- The value of a field that must be given. -/
def required {α : Type} (fields : Fields) (name : String) (read : Json → Option α) : Option α :=
  (fields.get? name).bind read

/-- The value of a field that has `usual` if it is not given. -/
def optional {α : Type} (fields : Fields) (name : String) (usual : α) (read : Json → Option α) :
    Option α :=
  match fields.get? name with
  | some j => read j
  | none => some usual

end Fields

/-- Members by name, if every name is Unicode text. -/
def named? (members : List (Option String × Json)) : Option Fields :=
  members.mapM fun (name, j) => name.map fun name => (name, j)

/-- The members that are fields, if none is given twice. -/
def fieldsAmong? (names : List String) (members : Fields) : Option Fields :=
  let given := members.filter fun (name, _) => names.contains name
  if (given.map Prod.fst).Nodup then some given else none

/-- The fields of a record, and the room inside it. -/
def record? (names : List String) (room : Nat) (j : Json) : Option (Fields × Nat) :=
  match room, j with
  | room + 1, .object members => do
    let fields ← fieldsAmong? names (← named? members)
    some (fields, room)
  | room + 1, .array items => if names.length < items.length then none else some (names.zip items, room)
  | _, _ => none

/-- The fields of a complete record, and the room inside it. As an object it may be short of fields
like any record, as an array it gives all of them. -/
def completeRecord? (names : List String) (room : Nat) (j : Json) : Option (Fields × Nat) :=
  match j with
  | .array items => if items.length = names.length then record? names room j else none
  | _ => record? names room j

/-- The fields of an open record, its other members in order, and the room inside it. -/
def openRecord? (names : List String) (room : Nat) (j : Json) : Option (Fields × Fields × Nat) :=
  match room, j with
  | room + 1, .object members => do
    let members ← named? members
    let fields ← fieldsAmong? names members
    let others := members.filter fun (name, _) => !names.contains name
    if others.all fun (_, j) => isReadable room j then some (fields, others, room) else none
  | _, _ => none

/-- The first member with one of the given names. -/
def firstAmong? (names : List String) (members : Fields) : Option (String × Json) :=
  members.find? fun (name, _) => names.contains name

end Telemetry.Json
