import Telemetry.Double.Basic
import Telemetry.Bytes

/-!
# Canonical values

A `Value` is what an attribute can hold once it is stored. Attribute maps keep their entries in
strictly ascending byte order of keys, so maps with equal contents are equal lists, whatever
operations built them. A key is found by binary search.
-/

namespace Telemetry

/-- A canonical attribute value. -/
inductive Value where
  | bool (b : Bool)
  | int (n : Int64)
  | uint (n : UInt64)
  /-- Nanoseconds since the Unix epoch. -/
  | timestamp (t : UInt64)
  | flags (f : UInt32)
  | double (x : Double)
  | string (s : String)
  | bytes (b : Bytes)
  | array (items : List Value)
  /-- The entries of an attribute map. -/
  | map (entries : List (String × Value))

instance : Inhabited Value := ⟨.bool false⟩

/-- The entries of an attribute map, in ascending byte order of keys. -/
abbrev Attributes := List (String × Value)

namespace Attributes

/-- Strictly ascending keys. -/
def Ascending (m : Attributes) : Prop :=
  (m.map Prod.fst).Pairwise (fun a b => Text.compareBytes a b = .lt)

/-- Where a binary search ends: at the position of the key, or where the key would be put. -/
inductive Position where
  | found (i : Nat)
  | missing (i : Nat)
  deriving DecidableEq, Repr

/-- Binary search for `key` among the positions from `low` up to but not including `high`. The
positions it looks at exist by the bound on `high`. -/
def searchBetween (m : Attributes) (key : String) (low high : Nat) (bound : high ≤ m.length) :
    Position :=
  if h : low < high then
    let middle := low + (high - low) / 2
    -- `middle` is below `high`, which is at most the length.
    have inside : middle < m.length := by omega
    match Text.compareBytes (m.get ⟨middle, inside⟩).1 key with
    | .eq => .found middle
    | .lt => searchBetween m key (middle + 1) high bound
    | .gt => searchBetween m key low middle (by omega)
  else .missing low
termination_by high - low

/-- Binary search for a key. -/
def search (m : Attributes) (key : String) : Position :=
  searchBetween m key 0 m.length (Nat.le_refl _)

/-- The value at a key. -/
def get? (m : Attributes) (key : String) : Option Value :=
  match search m key with
  | .found i => m[i]?.map Prod.snd
  | .missing _ => none

/-- Puts a value at a key, in place of the value the key has if it has one. -/
def insert (m : Attributes) (key : String) (value : Value) : Attributes :=
  match search m key with
  | .found i => m.modify i fun entry => (entry.1, value)
  | .missing i => m.insertIdx i (key, value)

/-- Without the entries whose key is also the key of the entry before, when `key` stands before
the first one. -/
def dropRepeatsAfter (key : String) : Attributes → Attributes
  | [] => []
  | entry :: rest =>
    if entry.1 = key then dropRepeatsAfter key rest else entry :: dropRepeatsAfter entry.1 rest

/-- Without the entries whose key is also the key of the entry before. -/
def dropRepeats : Attributes → Attributes
  | [] => []
  | entry :: rest => entry :: dropRepeatsAfter entry.1 rest

/-- The map of pairs in any order. The sort is stable, so of several pairs with one key the first
one stays. -/
def ofPairs (pairs : List (String × Value)) : Attributes :=
  dropRepeats (pairs.mergeSort fun a b => (Text.compareBytes a.1 b.1).isLE)

/-- The keys in ascending order. -/
def keys (m : Attributes) : List String :=
  m.map Prod.fst

end Attributes

namespace Value

mutual

/-- Equality in which doubles are compared as IEEE 754 does. -/
def agrees : Value → Value → Bool
  | .bool a, .bool b => a == b
  | .int a, .int b => a == b
  | .uint a, .uint b => a == b
  | .timestamp a, .timestamp b => a == b
  | .flags a, .flags b => a == b
  | .double a, .double b => a.ieeeEq b
  | .string a, .string b => a == b
  | .bytes a, .bytes b => a == b
  | .array a, .array b => itemsAgree a b
  | .map a, .map b => entriesAgree a b
  | _, _ => false

/-- Arrays agree item by item. -/
def itemsAgree : List Value → List Value → Bool
  | [], [] => true
  | a :: as, b :: bs => agrees a b && itemsAgree as bs
  | _, _ => false

/-- Maps agree entry by entry. -/
def entriesAgree : List (String × Value) → List (String × Value) → Bool
  | [], [] => true
  | (j, a) :: as, (k, b) :: bs => j == k && agrees a b && entriesAgree as bs
  | _, _ => false

end

mutual

/-- Every attribute map in the value, at any depth, has strictly ascending keys. -/
def IsCanonical : Value → Prop
  | .array items => ItemsCanonical items
  | .map entries => Attributes.Ascending entries ∧ EntriesCanonical entries
  | _ => True

/-- Every item is canonical. -/
def ItemsCanonical : List Value → Prop
  | [] => True
  | v :: vs => IsCanonical v ∧ ItemsCanonical vs

/-- Every value of the entries is canonical. -/
def EntriesCanonical : List (String × Value) → Prop
  | [] => True
  | (_, v) :: rest => IsCanonical v ∧ EntriesCanonical rest

end

end Value

/-- The keys ascend here and in every map inside. -/
def Attributes.IsCanonical (m : Attributes) : Prop :=
  m.Ascending ∧ Value.EntriesCanonical m

end Telemetry
