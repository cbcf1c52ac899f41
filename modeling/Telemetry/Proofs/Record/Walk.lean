import Mathlib.Data.List.Basic
import Telemetry.Proofs.Record.Encoding
import Telemetry.Proofs.Text
import Telemetry.Store.Batch

/-!
# What a digest can tell apart

To feed a record is to walk over its parts: over keys and scalars, in and out of arrays and maps.
The walk tells the record (`Value.walk_append_inj` and what follows from it), but only the bytes of
its parts are written, one after the other.  So records with different walks may feed the same
bytes, even if their attributes have the same keys and are all texts (`encodings_run_together`).

Nothing runs together if the two walks have one outline: the same kinds of parts in the same places,
and the same number of bytes in each part but perhaps one.  Then different records feed different
bytes, and only a collision of the digest can give them one id (`encoding_ne_of_sameOutline`).
-/

namespace Telemetry

/-! ### Walks -/

/-- What a walk comes by. -/
inductive PartKind where
  | bool
  | int
  | uint
  | timestamp
  | flags
  | double
  | string
  | bytes
  /-- The number of attributes that were dropped. -/
  | count
  | key
  | arrayStart
  | arrayEnd
  | mapStart
  | mapEnd
  deriving DecidableEq

/-- A part of a record, and the bytes that are fed for it.  Nothing is fed where an array or a map
starts or ends. -/
structure Part where
  kind : PartKind
  bytes : Bytes
  deriving DecidableEq

theorem Bytes.bigEndian8_inj {m n : UInt64}
    (h : bigEndian 8 m.toNat = bigEndian 8 n.toNat) : m = n := by
  have hlt (k : UInt64) : k.toNat < capacity 8 := k.toNat_lt
  exact UInt64.toNat_inj.mp (bigEndian_inj (hlt m) (hlt n) h)

theorem Bytes.bigEndian4_inj {m n : UInt32}
    (h : bigEndian 4 m.toNat = bigEndian 4 n.toNat) : m = n := by
  have hlt (k : UInt32) : k.toNat < capacity 4 := k.toNat_lt
  exact UInt32.toNat_inj.mp (bigEndian_inj (hlt m) (hlt n) h)

namespace Value

mutual

/-- The parts of a value, in the order in which they are fed. -/
def walk : Value → List Part
  | .bool b => [⟨.bool, [b.toUInt8]⟩]
  | .int n => [⟨.int, Bytes.bigEndian 8 n.toUInt64.toNat⟩]
  | .uint n => [⟨.uint, Bytes.bigEndian 8 n.toNat⟩]
  | .timestamp t => [⟨.timestamp, Bytes.bigEndian 8 t.toNat⟩]
  | .flags f => [⟨.flags, Bytes.bigEndian 4 f.toNat⟩]
  | .double x => [⟨.double, Bytes.bigEndian 8 x.bits.toNat⟩]
  | .string s => [⟨.string, Text.utf8 s⟩]
  | .bytes b => [⟨.bytes, b⟩]
  | .array items => ⟨.arrayStart, []⟩ :: (itemsWalk items ++ [⟨.arrayEnd, []⟩])
  | .map entries => ⟨.mapStart, []⟩ :: (entriesWalk entries ++ [⟨.mapEnd, []⟩])

/-- The parts of the items of an array. -/
def itemsWalk : List Value → List Part
  | [] => []
  | v :: vs => walk v ++ itemsWalk vs

/-- The parts of the entries of a map, key before value. -/
def entriesWalk : List (String × Value) → List Part
  | [] => []
  | (k, v) :: rest => ⟨.key, Text.utf8 k⟩ :: (walk v ++ entriesWalk rest)

end

mutual

/-- What is fed for a value are the bytes of its parts. -/
theorem flatMap_walk : ∀ v : Value, v.walk.flatMap Part.bytes = v.encoding
  | .bool _ | .int _ | .uint _ | .timestamp _ | .flags _ | .double _ | .string _ | .bytes _ =>
    List.append_nil _
  | .array items => by
    rw [walk, List.flatMap_cons, List.flatMap_append, flatMap_itemsWalk items]
    exact List.append_nil _
  | .map entries => by
    rw [walk, List.flatMap_cons, List.flatMap_append, flatMap_entriesWalk entries]
    exact List.append_nil _

theorem flatMap_itemsWalk : ∀ items : List Value,
    (itemsWalk items).flatMap Part.bytes = itemsEncoding items
  | [] => rfl
  | v :: vs => by
    rw [itemsWalk, itemsEncoding, List.flatMap_append, flatMap_walk v, flatMap_itemsWalk vs]

theorem flatMap_entriesWalk : ∀ entries : List (String × Value),
    (entriesWalk entries).flatMap Part.bytes = entriesEncoding entries
  | [] => rfl
  | (k, v) :: rest => by
    rw [entriesWalk, entriesEncoding, List.flatMap_cons, List.flatMap_append, flatMap_walk v,
      flatMap_entriesWalk rest, List.append_assoc]

end

/-- No value starts where an array ends. -/
theorem exists_walk_eq_cons (v : Value) :
    ∃ part parts, v.walk = part :: parts ∧ part.kind ≠ .arrayEnd := by
  cases v <;> exact ⟨_, _, rfl, nofun⟩

/-- Parts of one kind at the front are equal if their bytes are. -/
theorem part_append_inj {kind : PartKind} {x y : Bytes} {rest rest' : List Part}
    (h : [Part.mk kind x] ++ rest = [Part.mk kind y] ++ rest') : x = y ∧ rest = rest' := by
  rw [List.singleton_append, List.singleton_append, List.cons.injEq, Part.mk.injEq] at h
  exact ⟨h.1.2, h.2⟩

mutual

/-- **A walk tells the value, and where it ends.**  The first part tells which value it is, and an
array or a map goes on until its end. -/
theorem walk_append_inj : ∀ {v w : Value} {rest rest' : List Part},
    v.walk ++ rest = w.walk ++ rest' → v = w ∧ rest = rest'
  | .bool b, w, _, _, h => by
    cases w with
    | bool c =>
      exact (part_append_inj h).imp_left fun hb =>
        congrArg Value.bool (toUInt8_inj.mp (List.cons.inj hb).1)
    | _ => cases h
  | .int m, w, _, _, h => by
    cases w with
    | int n =>
      exact (part_append_inj h).imp_left fun hm =>
        congrArg (fun bits => Value.int ⟨bits⟩) (Bytes.bigEndian8_inj hm)
    | _ => cases h
  | .uint m, w, _, _, h => by
    cases w with
    | uint n => exact (part_append_inj h).imp_left fun hm => congrArg uint (Bytes.bigEndian8_inj hm)
    | _ => cases h
  | .timestamp s, w, _, _, h => by
    cases w with
    | timestamp t =>
      exact (part_append_inj h).imp_left fun hs => congrArg timestamp (Bytes.bigEndian8_inj hs)
    | _ => cases h
  | .flags f, w, _, _, h => by
    cases w with
    | flags g => exact (part_append_inj h).imp_left fun hf => congrArg flags (Bytes.bigEndian4_inj hf)
    | _ => cases h
  | .double x, w, _, _, h => by
    cases w with
    | double y =>
      exact (part_append_inj h).imp_left fun hx =>
        congrArg (fun bits => double ⟨bits⟩) (Bytes.bigEndian8_inj hx)
    | _ => cases h
  | .string s, w, _, _, h => by
    cases w with
    | string t =>
      exact (part_append_inj h).imp_left fun hs => congrArg Value.string (Text.utf8_injective hs)
    | _ => cases h
  | .bytes b, w, _, _, h => by
    cases w with
    | bytes c => exact (part_append_inj h).imp_left fun hb => congrArg bytes hb
    | _ => cases h
  | .array items, w, _, _, h => by
    cases w with
    | array items' =>
      simp only [walk, List.cons_append, List.append_assoc, List.nil_append] at h
      exact (itemsWalk_append_inj (List.cons.inj h).2).imp_left (congrArg array)
    | _ => cases h
  | .map entries, w, _, _, h => by
    cases w with
    | map entries' =>
      simp only [walk, List.cons_append, List.append_assoc, List.nil_append] at h
      exact (entriesWalk_append_inj (List.cons.inj h).2).imp_left (congrArg map)
    | _ => cases h

theorem itemsWalk_append_inj : ∀ {vs ws : List Value} {rest rest' : List Part},
    itemsWalk vs ++ ⟨.arrayEnd, []⟩ :: rest = itemsWalk ws ++ ⟨.arrayEnd, []⟩ :: rest' →
      vs = ws ∧ rest = rest'
  | [], [], _, _, h => ⟨rfl, (List.cons.inj h).2⟩
  | [], w :: ws, _, _, h => by
    obtain ⟨part, parts, hw, hne⟩ := w.exists_walk_eq_cons
    rw [itemsWalk, itemsWalk, hw] at h
    cases h
    exact absurd rfl hne
  | v :: vs, [], _, _, h => by
    obtain ⟨part, parts, hv, hne⟩ := v.exists_walk_eq_cons
    rw [itemsWalk, itemsWalk, hv] at h
    cases h
    exact absurd rfl hne
  | v :: vs, w :: ws, _, _, h => by
    rw [itemsWalk, itemsWalk, List.append_assoc, List.append_assoc] at h
    obtain ⟨rfl, hrest⟩ := walk_append_inj h
    exact (itemsWalk_append_inj hrest).imp_left (congrArg _)

theorem entriesWalk_append_inj : ∀ {es fs : List (String × Value)} {rest rest' : List Part},
    entriesWalk es ++ ⟨.mapEnd, []⟩ :: rest = entriesWalk fs ++ ⟨.mapEnd, []⟩ :: rest' →
      es = fs ∧ rest = rest'
  | [], [], _, _, h => ⟨rfl, (List.cons.inj h).2⟩
  | [], (l, w) :: fs, _, _, h => by cases h
  | (k, v) :: es, [], _, _, h => by cases h
  | (k, v) :: es, (l, w) :: fs, _, _, h => by
    simp only [entriesWalk, List.cons_append, List.append_assoc] at h
    obtain ⟨hkey, h⟩ := part_append_inj h
    obtain ⟨rfl, hentries⟩ := walk_append_inj h
    obtain ⟨rfl, hrest⟩ := entriesWalk_append_inj hentries
    exact ⟨by rw [Text.utf8_injective hkey], hrest⟩

end

end Value

/-! ### Outlines -/

/-- The walks come by the same kinds of parts in the same places, and all parts but perhaps one have
the same number of bytes in both. -/
structure SameOutline (a b : List Part) : Prop where
  kinds : a.map Part.kind = b.map Part.kind
  widths : ∃ i, (a.map fun part => part.bytes.length).eraseIdx i =
    (b.map fun part => part.bytes.length).eraseIdx i

theorem Part.eq_of_bytes_eq {a b : Part} (hkind : a.kind = b.kind) (hbytes : a.bytes = b.bytes) :
    a = b := by
  cases a
  cases b
  exact mk.injEq .. ▸ ⟨hkind, hbytes⟩

/-- Walks with parts of the same numbers of bytes are cut up alike. -/
theorem eq_of_widths_eq {a b : List Part} (hkinds : a.map Part.kind = b.map Part.kind)
    (hwidths : (a.map fun part => part.bytes.length) = b.map fun part => part.bytes.length)
    (hbytes : a.flatMap Part.bytes = b.flatMap Part.bytes) : a = b := by
  induction a generalizing b with
  | nil => exact (List.map_eq_nil_iff.mp hkinds.symm).symm
  | cons part parts ih =>
    obtain _ | ⟨part', parts'⟩ := b
    · cases hkinds
    · rw [List.map_cons, List.map_cons, List.cons.injEq] at hkinds hwidths
      obtain ⟨hpart, hparts⟩ := List.append_inj hbytes hwidths.1
      rw [Part.eq_of_bytes_eq hkinds.1 hpart, ih hkinds.2 hwidths.2 hparts]

/-- **Walks of one outline are told apart by their bytes.**  The parts before the one that may be
longer are cut off from the front, those behind it from the back. -/
theorem SameOutline.eq_of_bytes_eq {a b : List Part} (h : SameOutline a b)
    (hbytes : a.flatMap Part.bytes = b.flatMap Part.bytes) : a = b := by
  obtain ⟨hkinds, i, hwidths⟩ := h
  induction a generalizing b i with
  | nil => exact (List.map_eq_nil_iff.mp hkinds.symm).symm
  | cons part parts ih =>
    obtain _ | ⟨part', parts'⟩ := b
    · cases hkinds
    · rw [List.map_cons, List.map_cons, List.cons.injEq] at hkinds
      cases i with
      | zero =>
        -- here is the part that may be longer, and what follows has the same length in both walks
        have hlength : (parts.flatMap Part.bytes).length = (parts'.flatMap Part.bytes).length := by
          rw [List.length_flatMap, List.length_flatMap]
          exact congrArg List.sum hwidths
        obtain ⟨hpart, hparts⟩ := List.append_inj' hbytes hlength
        rw [Part.eq_of_bytes_eq hkinds.1 hpart, eq_of_widths_eq hkinds.2 hwidths hparts]
      | succ i =>
        obtain ⟨hwidth, hwidths⟩ := List.cons.inj hwidths
        obtain ⟨hpart, hparts⟩ := List.append_inj hbytes hwidth
        rw [Part.eq_of_bytes_eq hkinds.1 hpart, ih hparts hkinds.2 i hwidths]

/-! ### Walks of records -/

/-- The parts of an attribute map. -/
def Attributes.walk (m : Attributes) : List Part :=
  (Value.map m).walk

/-- The parts of what resources and scopes both have. -/
def attributedWalk (attr : Attributes) (dropped : UInt32) (schema : String) : List Part :=
  Attributes.walk attr ++
    [⟨.count, Bytes.bigEndian 4 dropped.toNat⟩, ⟨.string, Text.utf8 schema⟩]

/-- The parts of a resource. -/
def Resource.walk (r : Resource) : List Part :=
  attributedWalk r.attr r.dropped r.schema

/-- The parts of a scope. -/
def Scope.walk (s : Scope) : List Part :=
  [⟨.string, Text.utf8 s.name⟩, ⟨.string, Text.utf8 s.version⟩] ++
    attributedWalk s.attr s.dropped s.schema

theorem Attributes.flatMap_walk (m : Attributes) :
    (walk m).flatMap Part.bytes = encoding m :=
  Value.flatMap_walk (.map m)

theorem flatMap_attributedWalk (attr : Attributes) (dropped : UInt32) (schema : String) :
    (attributedWalk attr dropped schema).flatMap Part.bytes =
      Attributes.encoding attr ++ Bytes.bigEndian 4 dropped.toNat ++ Text.utf8 schema := by
  rw [attributedWalk, List.flatMap_append, Attributes.flatMap_walk, List.append_assoc]
  simp

theorem Resource.flatMap_walk (r : Resource) : r.walk.flatMap Part.bytes = r.encoding :=
  flatMap_attributedWalk r.attr r.dropped r.schema

theorem Scope.flatMap_walk (s : Scope) : s.walk.flatMap Part.bytes = s.encoding := by
  rw [walk, encoding, List.flatMap_append, flatMap_attributedWalk]
  simp

theorem Attributes.walk_append_inj {m n : Attributes} {rest rest' : List Part}
    (h : walk m ++ rest = walk n ++ rest') : m = n ∧ rest = rest' :=
  (Value.walk_append_inj h).imp_left Value.map.inj

theorem Attributes.walk_injective : Function.Injective walk :=
  fun _ _ h => (walk_append_inj (congrArg (· ++ []) h)).1

theorem attributedWalk_inj {m n : Attributes} {d e : UInt32} {s t : String}
    (h : attributedWalk m d s = attributedWalk n e t) : m = n ∧ d = e ∧ s = t := by
  obtain ⟨hattr, hrest⟩ := Attributes.walk_append_inj h
  rw [List.cons.injEq, List.cons.injEq, Part.mk.injEq, Part.mk.injEq] at hrest
  obtain ⟨⟨-, hdropped⟩, ⟨-, hschema⟩, -⟩ := hrest
  exact ⟨hattr, Bytes.bigEndian4_inj hdropped, Text.utf8_injective hschema⟩

/-- **A walk tells the resource.** -/
theorem Resource.walk_injective : Function.Injective walk := by
  intro a b h
  cases a
  cases b
  rw [mk.injEq]
  exact attributedWalk_inj h

/-- **A walk tells the scope.** -/
theorem Scope.walk_injective : Function.Injective walk := by
  intro a b h
  obtain ⟨hnames, hrest⟩ := List.append_inj h rfl
  rw [List.cons.injEq, List.cons.injEq, Part.mk.injEq, Part.mk.injEq] at hnames
  obtain ⟨⟨-, hname⟩, ⟨-, hversion⟩, -⟩ := hnames
  cases a
  cases b
  rw [mk.injEq]
  exact ⟨Text.utf8_injective hname, Text.utf8_injective hversion, attributedWalk_inj hrest⟩

/-! ### Records of one outline -/

theorem SameOutline.encoding_ne {α : Type} {walk : α → List Part} {encoding : α → Bytes}
    (hwalk : Function.Injective walk) (hbytes : ∀ a, (walk a).flatMap Part.bytes = encoding a)
    {a b : α} (hab : a ≠ b) (h : SameOutline (walk a) (walk b)) : encoding a ≠ encoding b := by
  rw [← hbytes a, ← hbytes b]
  exact fun heq => hab (hwalk (h.eq_of_bytes_eq heq))

/-- Different byte strings that have one digest. -/
def Digest.Collide (x y : Bytes) : Prop :=
  x ≠ y ∧ start.write x = start.write y

theorem Id.ofDigest_eq_iff_collide {kind : IdKind} {x y : Bytes} (h : x ≠ y) :
    (Id.ofDigest (Digest.start.write x) : Id kind) = .ofDigest (Digest.start.write y) ↔
      Digest.Collide x y :=
  ofDigest_inj.trans (and_iff_right h).symm

/-- **Different records of one outline feed different bytes.**  What is fed is the encoding
(`Resource.feed_eq_write` and its likes), so resources, scopes or attribute maps of one outline have
one id only if the digest has a collision. -/
theorem encoding_ne_of_sameOutline :
    (∀ a b : Resource, a ≠ b → SameOutline a.walk b.walk → a.encoding ≠ b.encoding ∧
      (a.id = b.id ↔ Digest.Collide a.encoding b.encoding)) ∧
    (∀ a b : Scope, a ≠ b → SameOutline a.walk b.walk → a.encoding ≠ b.encoding ∧
      (a.id = b.id ↔ Digest.Collide a.encoding b.encoding)) ∧
    ∀ a b : Attributes, a ≠ b → SameOutline (Attributes.walk a) (Attributes.walk b) →
      Attributes.encoding a ≠ Attributes.encoding b ∧
        (Attributes.streamId a = Attributes.streamId b ↔
          Digest.Collide (Attributes.encoding a) (Attributes.encoding b)) := by
  refine ⟨fun a b hab houtline => ?_, fun a b hab houtline => ?_, fun a b hab houtline => ?_⟩
  · have hne := houtline.encoding_ne Resource.walk_injective Resource.flatMap_walk hab
    rw [Resource.id, Resource.id, Resource.feed_eq_write, Resource.feed_eq_write,
      Id.ofDigest_eq_iff_collide hne]
    exact ⟨hne, .rfl⟩
  · have hne := houtline.encoding_ne Scope.walk_injective Scope.flatMap_walk hab
    rw [Scope.id, Scope.id, Scope.feed_eq_write, Scope.feed_eq_write,
      Id.ofDigest_eq_iff_collide hne]
    exact ⟨hne, .rfl⟩
  · have hne := houtline.encoding_ne Attributes.walk_injective Attributes.flatMap_walk hab
    rw [Attributes.streamId, Attributes.streamId, Attributes.digest, Attributes.digest,
      Attributes.feed_eq_write, Attributes.feed_eq_write, Id.ofDigest_eq_iff_collide hne]
    exact ⟨hne, .rfl⟩

/-! ### Two texts -/

/-- Two texts under the keys `a` and `b`, as they are sent. -/
def Otlp.twoTexts (a b : String) : List KeyValue :=
  [.entry "a" (.string a), .entry "b" (.string b)]

/-- The attributes that are stored for two texts. -/
def Attributes.twoTexts (a b : String) : Attributes :=
  Otlp.KeyValue.toAttributes (Otlp.twoTexts a b)

/-- The resource that is stored for two texts. -/
def Resource.twoTexts (a b : String) : Resource :=
  Otlp.resourceRecord (some ⟨Otlp.twoTexts a b, 0⟩) ""

/-- The scope that is stored for two texts. -/
def Scope.twoTexts (a b : String) : Scope :=
  Otlp.scopeRecord (some ⟨"meter", "1", Otlp.twoTexts a b, 0⟩) ""

/-- The keys are in order already. -/
theorem Attributes.twoTexts_eq (a b : String) :
    twoTexts a b = [("a", .string a), ("b", .string b)] := by
  rw [twoTexts, Otlp.KeyValue.toAttributes, ofPairs, List.mergeSort_of_pairwise]
  · rfl
  · simp only [Otlp.twoTexts, Otlp.KeyValue.toPairs, Otlp.AnyValue.toValue?, List.pairwise_pair]
    decide

theorem Resource.twoTexts_eq (a b : String) :
    twoTexts a b = ⟨[("a", .string a), ("b", .string b)], 0, ""⟩ := by
  rw [twoTexts, Otlp.resourceRecord, ← Attributes.twoTexts_eq, Attributes.twoTexts]

theorem Scope.twoTexts_eq (a b : String) :
    twoTexts a b = ⟨"meter", "1", [("a", .string a), ("b", .string b)], 0, ""⟩ := by
  rw [twoTexts, Otlp.scopeRecord, ← Attributes.twoTexts_eq, Attributes.twoTexts]

/-- Texts of one length under the one key, and of any length under the other. -/
theorem encoding_ne_twoTexts :
    (Resource.twoTexts "x" "one").encoding ≠ (Resource.twoTexts "y" "seven").encoding ∧
      (Scope.twoTexts "x" "one").encoding ≠ (Scope.twoTexts "y" "seven").encoding ∧
      Attributes.encoding (.twoTexts "x" "one") ≠ Attributes.encoding (.twoTexts "y" "seven") := by
  obtain ⟨hresource, hscope, hattributes⟩ := encoding_ne_of_sameOutline
  simp only [Resource.twoTexts_eq, Scope.twoTexts_eq, Attributes.twoTexts_eq]
  refine ⟨(hresource _ _ ?_ ⟨by decide, 4, by decide⟩).1,
    (hscope _ _ ?_ ⟨by decide, 6, by decide⟩).1,
    (hattributes _ _ ?_ ⟨by decide, 4, by decide⟩).1⟩
  · exact fun h => absurd (congrArg Resource.walk h) (by decide)
  · exact fun h => absurd (congrArg Scope.walk h) (by decide)
  · exact fun h => absurd (congrArg Attributes.walk h) (by decide)

/-- The attributes that are stored for a single number. -/
def Attributes.oneNumber (n : Otlp.AnyValue) : Attributes :=
  Otlp.KeyValue.toAttributes [.entry "n" n]

/-- **Texts run together.**  Resources, scopes and attribute maps feed the same bytes although their
attributes have the same keys and every value is a text.  So one of the two resources is lost, and
one of the two scopes, and two streams are one.  Numbers of two kinds are not told apart either. -/
theorem encodings_run_together :
    (Resource.twoTexts "" "bb" ≠ .twoTexts "b" "b" ∧
      (Resource.twoTexts "" "bb").encoding = (Resource.twoTexts "b" "b").encoding ∧
      (Step.applyAll .empty [.internResource (.twoTexts "" "bb"),
        .internResource (.twoTexts "b" "b")]).resources.size = 1) ∧
    (Scope.twoTexts "" "bb" ≠ .twoTexts "b" "b" ∧
      (Scope.twoTexts "" "bb").encoding = (Scope.twoTexts "b" "b").encoding ∧
      (Step.applyAll .empty [.internScope (.twoTexts "" "bb"),
        .internScope (.twoTexts "b" "b")]).scopes.size = 1) ∧
    Attributes.twoTexts "" "bb" ≠ .twoTexts "b" "b" ∧
      Attributes.encoding (.twoTexts "" "bb") = Attributes.encoding (.twoTexts "b" "b") ∧
      Attributes.streamId (.twoTexts "" "bb") = Attributes.streamId (.twoTexts "b" "b") ∧
    Attributes.oneNumber (.int 1) ≠ .oneNumber (.double ⟨1⟩) ∧
      Attributes.encoding (.oneNumber (.int 1)) = Attributes.encoding (.oneNumber (.double ⟨1⟩)) := by
  have hnumber {n : Otlp.AnyValue} {v : Value} (h : n.toValue? = some v) :
      Attributes.oneNumber n = [("n", v)] := by
    simp [Attributes.oneNumber, Otlp.KeyValue.toAttributes, Otlp.KeyValue.toPairs, h,
      Attributes.ofPairs, Attributes.dropRepeats, Attributes.dropRepeatsAfter]
  simp only [Resource.twoTexts_eq, Scope.twoTexts_eq, Attributes.twoTexts_eq,
    hnumber (n := .int 1) rfl, hnumber (n := .double ⟨1⟩) rfl]
  refine ⟨⟨?_, by decide, by decide +kernel⟩, ⟨?_, by decide, by decide +kernel⟩, ?_, by decide,
    by decide +kernel, ?_, by decide⟩
  · exact fun h => absurd (congrArg Resource.walk h) (by decide)
  · exact fun h => absurd (congrArg Scope.walk h) (by decide)
  · exact fun h => absurd (congrArg Attributes.walk h) (by decide)
  · exact fun h => absurd (congrArg Attributes.walk h) (by decide)

end Telemetry
