import Telemetry.Proofs.Record.Maps
import Telemetry.Proofs.Value.Lookup

/-!
# What a conversion reaches

A payload says booleans, signed integers, doubles, strings, byte strings, arrays and maps, and
nothing else (`Value.IsSendable`).  Converting one gives a canonical value of these kinds, and each
such value is reached: `Value.toAnyValue` says it in a payload, and converting that gives the value
back (`Otlp.conversion_reaches`).

Nothing is sorted or dropped on the way back.  A map whose keys ascend is the map of its own pairs
(`Attributes.Ascending.ofPairs_eq`), and no value of these kinds is embedded without content.
-/

namespace Telemetry

namespace Value

/-! ### Canonical values -/

mutual

/-- A value is canonical if all maps in it ascend, whatever they stand in. -/
theorem isCanonical_iff : ∀ v : Value, v.IsCanonical ↔ ∀ m ∈ v.maps, m.Ascending
  | .bool _ | .int _ | .uint _ | .timestamp _ | .flags _ | .double _ | .string _ | .bytes _ =>
    ⟨fun _ => List.forall_mem_nil _, fun _ => trivial⟩
  | .array items => by
    rw [IsCanonical, maps]
    exact itemsCanonical_iff items
  | .map entries => by
    rw [IsCanonical, maps, List.forall_mem_cons, entriesCanonical_iff entries]

theorem itemsCanonical_iff : ∀ vs : List Value,
    ItemsCanonical vs ↔ ∀ m ∈ itemsMaps vs, m.Ascending
  | [] => ⟨fun _ => List.forall_mem_nil _, fun _ => trivial⟩
  | v :: vs => by
    rw [ItemsCanonical, itemsMaps, List.forall_mem_append, isCanonical_iff v,
      itemsCanonical_iff vs]

theorem entriesCanonical_iff : ∀ entries : List (String × Value),
    EntriesCanonical entries ↔ ∀ m ∈ entriesMaps entries, m.Ascending
  | [] => ⟨fun _ => List.forall_mem_nil _, fun _ => trivial⟩
  | (_, v) :: rest => by
    rw [EntriesCanonical, entriesMaps, List.forall_mem_append, isCanonical_iff v,
      entriesCanonical_iff rest]

end

/-! ### What a payload can say -/

mutual

/-- The value is of a kind that payloads have, and so is everything in it. -/
def IsSendable : Value → Prop
  | .bool _ | .int _ | .double _ | .string _ | .bytes _ => True
  | .uint _ | .timestamp _ | .flags _ => False
  | .array items => ItemsSendable items
  | .map entries => EntriesSendable entries

/-- Every item is sendable. -/
def ItemsSendable : List Value → Prop
  | [] => True
  | v :: vs => IsSendable v ∧ ItemsSendable vs

/-- Every value of the entries is sendable. -/
def EntriesSendable : List (String × Value) → Prop
  | [] => True
  | (_, v) :: rest => IsSendable v ∧ EntriesSendable rest

end

theorem entriesSendable_iff {entries : List (String × Value)} :
    EntriesSendable entries ↔ ∀ entry ∈ entries, entry.2.IsSendable := by
  induction entries with
  | nil => simp [EntriesSendable]
  | cons entry rest ih => simp [EntriesSendable, ih]

/-- Making a map of pairs adds no values. -/
theorem EntriesSendable.ofPairs {pairs : List (String × Value)} (h : EntriesSendable pairs) :
    EntriesSendable (Attributes.ofPairs pairs) :=
  entriesSendable_iff.mpr fun entry hentry =>
    entriesSendable_iff.mp h entry (Attributes.mem_ofPairs hentry)

mutual

/-- A value as a payload says it.  There is nothing to say for the kinds that payloads do not
have. -/
def toAnyValue : Value → Otlp.AnyValue
  | .bool b => .bool b
  | .int n => .int n
  | .double x => .double x
  | .string s => .string s
  | .bytes b => .bytes b
  | .array items => .array (toAnyValues items)
  | .map entries => .keyValues (toKeyValues entries)
  | .uint _ | .timestamp _ | .flags _ => .empty

/-- The items of an array as a payload says them. -/
def toAnyValues : List Value → List Otlp.AnyValue
  | [] => []
  | v :: vs => toAnyValue v :: toAnyValues vs

/-- The entries of a map as a payload says them. -/
def toKeyValues : List (String × Value) → List Otlp.KeyValue
  | [] => []
  | (key, v) :: rest => .entry key (toAnyValue v) :: toKeyValues rest

end

end Value

namespace Otlp

/-- Only what has no content is not converted. -/
theorem AnyValue.toValue?_eq_none_iff (a : AnyValue) : a.toValue? = none ↔ a = .empty := by
  cases a <;> simp [toValue?]

/-! ### What is reached -/

mutual

theorem AnyValue.isSendable_of_toValue? : ∀ (a : AnyValue) (v : Value), a.toValue? = some v →
    v.IsSendable
  | .empty, v, h => by cases h
  | .string s, v, h => by cases h; trivial
  | .bool b, v, h => by cases h; trivial
  | .int n, v, h => by cases h; trivial
  | .double x, v, h => by cases h; trivial
  | .bytes b, v, h => by cases h; trivial
  | .array values, v, h => by
    cases h
    exact AnyValue.itemsSendable_toItems values
  | .keyValues entries, v, h => by
    cases h
    -- the map is made of the pairs, which are sendable whatever keys repeat
    rw [Value.IsSendable]
    exact (KeyValue.entriesSendable_toPairs entries).ofPairs

theorem AnyValue.itemsSendable_toItems : ∀ values : List AnyValue,
    Value.ItemsSendable (AnyValue.toItems values)
  | [] => trivial
  | a :: values => by
    have hrest := AnyValue.itemsSendable_toItems values
    rw [AnyValue.toItems]
    split
    · rename_i item hitem
      exact ⟨AnyValue.isSendable_of_toValue? a item hitem, hrest⟩
    · exact hrest

theorem KeyValue.entriesSendable_toPairs : ∀ entries : List KeyValue,
    Value.EntriesSendable (KeyValue.toPairs entries)
  | [] => trivial
  | .bare _ :: rest => KeyValue.entriesSendable_toPairs rest
  | .entry key a :: rest => by
    have hrest := KeyValue.entriesSendable_toPairs rest
    rw [KeyValue.toPairs]
    split
    · rename_i value hvalue
      exact ⟨AnyValue.isSendable_of_toValue? a value hvalue, hrest⟩
    · exact hrest

end

theorem AnyValue.isCanonical_of_toValue? {a : AnyValue} {v : Value} (h : a.toValue? = some v) :
    v.IsCanonical :=
  v.isCanonical_iff.mpr fun m hm => (a.built_of_mem_maps v h m hm).ascending

theorem KeyValue.isCanonical_toAttributes (entries : List KeyValue) :
    (toAttributes entries).IsCanonical := by
  have hmaps : ∀ m ∈ Attributes.maps (toAttributes entries), m.Ascending :=
    fun m hm => (built_toAttributes entries m hm).ascending
  rw [Attributes.maps, List.forall_mem_cons] at hmaps
  exact ⟨hmaps.1, (Value.entriesCanonical_iff _).mpr hmaps.2⟩

/-! ### Back from a payload -/

mutual

/-- A canonical value that can be sent is what its embedding is converted to. -/
theorem toValue?_toAnyValue : ∀ v : Value, v.IsSendable → v.IsCanonical →
    v.toAnyValue.toValue? = some v
  | .bool _, _, _ => rfl
  | .int _, _, _ => rfl
  | .double _, _, _ => rfl
  | .string _, _, _ => rfl
  | .bytes _, _, _ => rfl
  | .array items, hsendable, hcanonical => by
    rw [Value.toAnyValue, AnyValue.toValue?, toItems_toAnyValues items hsendable hcanonical]
  | .map entries, hsendable, ⟨hascending, hcanonical⟩ => by
    -- the entries come back as they are, and making a map of them changes nothing
    rw [Value.toAnyValue, AnyValue.toValue?, toPairs_toKeyValues entries hsendable hcanonical,
      hascending.ofPairs_eq]

theorem toItems_toAnyValues : ∀ items : List Value, Value.ItemsSendable items →
    Value.ItemsCanonical items → AnyValue.toItems (Value.toAnyValues items) = items
  | [], _, _ => rfl
  | v :: vs, ⟨hv, hvs⟩, ⟨hvCanonical, hvsCanonical⟩ => by
    rw [Value.toAnyValues, AnyValue.toItems, toValue?_toAnyValue v hv hvCanonical,
      toItems_toAnyValues vs hvs hvsCanonical]

theorem toPairs_toKeyValues : ∀ entries : List (String × Value), Value.EntriesSendable entries →
    Value.EntriesCanonical entries → KeyValue.toPairs (Value.toKeyValues entries) = entries
  | [], _, _ => rfl
  | (key, v) :: rest, ⟨hv, hrest⟩, ⟨hvCanonical, hrestCanonical⟩ => by
    rw [Value.toKeyValues, KeyValue.toPairs, toValue?_toAnyValue v hv hvCanonical,
      toPairs_toKeyValues rest hrest hrestCanonical]

end

theorem toValue?_toAnyValue_iff (v : Value) :
    v.toAnyValue.toValue? = some v ↔ v.IsSendable ∧ v.IsCanonical :=
  ⟨fun h => ⟨v.toAnyValue.isSendable_of_toValue? v h, AnyValue.isCanonical_of_toValue? h⟩,
    fun h => toValue?_toAnyValue v h.1 h.2⟩

theorem exists_toValue?_eq_iff (v : Value) :
    (∃ a : AnyValue, a.toValue? = some v) ↔ v.IsSendable ∧ v.IsCanonical := by
  constructor
  · rintro ⟨a, ha⟩
    exact ⟨a.isSendable_of_toValue? v ha, AnyValue.isCanonical_of_toValue? ha⟩
  · intro h
    exact ⟨v.toAnyValue, (toValue?_toAnyValue_iff v).mpr h⟩

theorem KeyValue.toAttributes_toKeyValues_iff (m : Attributes) :
    toAttributes (Value.toKeyValues m) = m ↔ Value.EntriesSendable m ∧ m.IsCanonical := by
  constructor
  · intro h
    rw [← h]
    exact ⟨(entriesSendable_toPairs _).ofPairs, isCanonical_toAttributes _⟩
  · rintro ⟨hsendable, hascending, hcanonical⟩
    rw [toAttributes, toPairs_toKeyValues m hsendable hcanonical, hascending.ofPairs_eq]

/-- **A conversion reaches exactly the canonical values of the kinds that payloads have.**  Only a
value without content is not converted.  What a conversion gives is sendable and canonical, and
every value that is both is what its embedding is converted to, and no other value is.  So
converting again what was converted changes nothing, neither a value nor an attribute map. -/
theorem conversion_reaches :
    (∀ a : AnyValue, a.toValue? = none ↔ a = .empty) ∧
      (∀ v : Value, (∃ a : AnyValue, a.toValue? = some v) ↔ v.IsSendable ∧ v.IsCanonical) ∧
      (∀ v : Value, v.toAnyValue.toValue? = some v ↔ v.IsSendable ∧ v.IsCanonical) ∧
      (∀ a : AnyValue, (a.toValue?.bind fun v => v.toAnyValue.toValue?) = a.toValue?) ∧
      (∀ m : Attributes, KeyValue.toAttributes (Value.toKeyValues m) = m ↔
        Value.EntriesSendable m ∧ m.IsCanonical) ∧
      ∀ entries : List KeyValue,
        KeyValue.toAttributes (Value.toKeyValues (KeyValue.toAttributes entries)) =
          KeyValue.toAttributes entries := by
  refine ⟨AnyValue.toValue?_eq_none_iff, exists_toValue?_eq_iff, toValue?_toAnyValue_iff,
    fun a => ?_, KeyValue.toAttributes_toKeyValues_iff, fun entries => ?_⟩
  · cases ha : a.toValue? with
    | none => rfl
    | some v =>
      rw [Option.bind_some]
      exact (toValue?_toAnyValue_iff v).mpr ((exists_toValue?_eq_iff v).mp ⟨a, ha⟩)
  · rw [KeyValue.toAttributes_toKeyValues_iff]
    exact ⟨(KeyValue.entriesSendable_toPairs entries).ofPairs,
      KeyValue.isCanonical_toAttributes entries⟩

end Otlp

end Telemetry
