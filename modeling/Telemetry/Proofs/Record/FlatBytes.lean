import Telemetry.Proofs.Record.Encoding
import Telemetry.Proofs.Record.RequestHeaders

/-!
# A digest is that of one byte string

What a value or a record feeds to a digest piece by piece comes to one byte string.  `SpelledAs`
says which one it is, without computing it: a number stands in so many bytes whose number it is
(`Bytes.IsWord`), what is in an array or a record stands one after the other, and the keys of a map
ascend.  The encoding is the only byte string a canonical value is spelled as
(`Value.spelledAs_iff` and its likes).

The digest itself is FNV-1a, told in natural numbers (`Digest.toNat_write`), and it does not matter
how bytes are cut up before they are written (`Digest.foldl_write`).  The main statement is
`Digest.feeds_flat_bytes`.
-/

namespace Telemetry

/-! ### Words -/

namespace Bytes

/-- The bytes are so many, and they are the number, the most significant one first. -/
def IsWord (width n : Nat) (bytes : Bytes) : Prop :=
  bytes.length = width ∧ toNat bytes = n

theorem toNat_lt_capacity (bytes : Bytes) : toNat bytes < capacity bytes.length := by
  induction bytes with
  | nil => decide
  | cons b rest ih =>
    have hbyte := Nat.mul_le_mul_right (capacity rest.length) (Nat.le_of_lt_succ b.toNat_lt)
    rw [toNat_cons, List.length_cons, capacity]
    omega

/-- The bytes of a number are determined by how many they are. -/
theorem eq_of_toNat_eq {a b : Bytes} (hlength : a.length = b.length) (h : toNat a = toNat b) :
    a = b := by
  induction a generalizing b with
  | nil => exact (List.length_eq_zero_iff.mp hlength.symm).symm
  | cons x xs ih =>
    obtain _ | ⟨y, ys⟩ := b
    · cases hlength
    · have hlengths : xs.length = ys.length := Nat.succ.inj hlength
      have hxs := toNat_lt_capacity xs
      have hys := toNat_lt_capacity ys
      rw [hlengths] at hxs
      rw [toNat_cons, toNat_cons, hlengths] at h
      -- the first byte is the quotient, and the others are the remainder
      have hfirst : x.toNat = y.toNat := by
        have hquotient := congrArg (· / capacity ys.length) h
        simpa only [Nat.mul_comm _ (capacity ys.length), Nat.mul_add_div (capacity_pos _),
          Nat.div_eq_of_lt hxs, Nat.div_eq_of_lt hys, Nat.add_zero] using hquotient
      rw [hfirst] at h
      rw [UInt8.toNat_inj.mp hfirst, ih hlengths (Nat.add_left_cancel h)]

theorem isWord_iff {width n : Nat} (hn : n < capacity width) {bytes : Bytes} :
    IsWord width n bytes ↔ bytes = bigEndian width n := by
  have hread : toNat (bigEndian width n) = n := by rw [toNat_bigEndian, Nat.mod_eq_of_lt hn]
  constructor
  · rintro ⟨hlength, hnumber⟩
    exact eq_of_toNat_eq (by rw [hlength, length_bigEndian]) (by rw [hnumber, hread])
  · rintro rfl
    exact ⟨length_bigEndian width n, hread⟩

theorem isWord64_iff {n : UInt64} {bytes : Bytes} :
    IsWord 8 n.toNat bytes ↔ bytes = bigEndian 8 n.toNat :=
  isWord_iff n.toNat_lt

theorem isWord32_iff {n : UInt32} {bytes : Bytes} :
    IsWord 4 n.toNat bytes ↔ bytes = bigEndian 4 n.toNat :=
  isWord_iff n.toNat_lt

theorem isWord_bool_iff {b : Bool} {bytes : Bytes} :
    IsWord 1 b.toNat bytes ↔ bytes = [b.toUInt8] := by
  rw [isWord_iff (b.toNat_lt.trans (by decide))]
  cases b <;> rfl

theorem isWord_id_iff {kind : IdKind} (id : Id kind) {bytes : Bytes} :
    IsWord kind.width id.number bytes ↔ bytes = id.bytes :=
  isWord_iff id.isLt

end Bytes

/-- The bits of a signed number are its remainder. -/
theorem toNat_toUInt64 (n : Int64) : n.toUInt64.toNat = (n.toInt % 2 ^ 64).toNat := by
  have hlt := n.toBitVec.isLt
  change n.toBitVec.toNat = (n.toBitVec.toInt % 2 ^ 64).toNat
  rw [BitVec.toInt_eq_toNat_bmod, Int.bmod_def]
  split <;> omega

/-! ### Values -/

namespace Value

mutual

/-- How a value is spelled: a truth value in one byte, a number of 64 bits in eight, of 32 bits in
four, and a text or a byte string as it is. -/
inductive SpelledAs : Value → Bytes → Prop
  | bool {b : Bool} {bytes : Bytes} : bytes.IsWord 1 b.toNat → SpelledAs (.bool b) bytes
  | int {n : Int64} {bytes : Bytes} :
    bytes.IsWord 8 (n.toInt % 2 ^ 64).toNat → SpelledAs (.int n) bytes
  | uint {n : UInt64} {bytes : Bytes} : bytes.IsWord 8 n.toNat → SpelledAs (.uint n) bytes
  | timestamp {t : UInt64} {bytes : Bytes} : bytes.IsWord 8 t.toNat → SpelledAs (.timestamp t) bytes
  | flags {f : UInt32} {bytes : Bytes} : bytes.IsWord 4 f.toNat → SpelledAs (.flags f) bytes
  | double {x : Double} {bytes : Bytes} : bytes.IsWord 8 x.bits.toNat → SpelledAs (.double x) bytes
  | string (s : String) : SpelledAs (.string s) (Text.utf8 s)
  | bytes (b : Bytes) : SpelledAs (.bytes b) b
  | array {items : List Value} {bytes : Bytes} :
    ItemsSpelledAs items bytes → SpelledAs (.array items) bytes
  | map {entries : List (String × Value)} {bytes : Bytes} :
    Attributes.Ascending entries → EntriesSpelledAs entries bytes → SpelledAs (.map entries) bytes

/-- The items of an array are spelled one after the other. -/
inductive ItemsSpelledAs : List Value → Bytes → Prop
  | nil : ItemsSpelledAs [] []
  | cons {v : Value} {vs : List Value} {front back : Bytes} :
    SpelledAs v front → ItemsSpelledAs vs back → ItemsSpelledAs (v :: vs) (front ++ back)

/-- The entries of a map are spelled one after the other, key before value. -/
inductive EntriesSpelledAs : List (String × Value) → Bytes → Prop
  | nil : EntriesSpelledAs [] []
  | cons {key : String} {v : Value} {rest : List (String × Value)} {front back : Bytes} :
    SpelledAs v front → EntriesSpelledAs rest back →
      EntriesSpelledAs ((key, v) :: rest) (Text.utf8 key ++ front ++ back)

end

mutual

/-- What a value is spelled as is its encoding. -/
theorem SpelledAs.spec : ∀ {v : Value} {bytes : Bytes}, SpelledAs v bytes →
    v.IsCanonical ∧ bytes = v.encoding
  | _, _, .bool h => ⟨trivial, Bytes.isWord_bool_iff.mp h⟩
  | _, _, .int (n := n) h => ⟨trivial, Bytes.isWord64_iff.mp (toNat_toUInt64 n ▸ h)⟩
  | _, _, .uint h => ⟨trivial, Bytes.isWord64_iff.mp h⟩
  | _, _, .timestamp h => ⟨trivial, Bytes.isWord64_iff.mp h⟩
  | _, _, .flags h => ⟨trivial, Bytes.isWord32_iff.mp h⟩
  | _, _, .double h => ⟨trivial, Bytes.isWord64_iff.mp h⟩
  | _, _, .string s => ⟨trivial, rfl⟩
  | _, _, .bytes b => ⟨trivial, rfl⟩
  | _, _, .array h => h.spec
  | _, _, .map hascending h => ⟨⟨hascending, h.spec.1⟩, h.spec.2⟩

theorem ItemsSpelledAs.spec : ∀ {vs : List Value} {bytes : Bytes}, ItemsSpelledAs vs bytes →
    ItemsCanonical vs ∧ bytes = itemsEncoding vs
  | _, _, .nil => ⟨trivial, rfl⟩
  | _, _, .cons hv hvs => by
    obtain ⟨hcanonical, rfl⟩ := hv.spec
    obtain ⟨hcanonicals, rfl⟩ := hvs.spec
    exact ⟨⟨hcanonical, hcanonicals⟩, rfl⟩

theorem EntriesSpelledAs.spec : ∀ {entries : List (String × Value)} {bytes : Bytes},
    EntriesSpelledAs entries bytes → EntriesCanonical entries ∧ bytes = entriesEncoding entries
  | _, _, .nil => ⟨trivial, rfl⟩
  | _, _, .cons hv hrest => by
    obtain ⟨hcanonical, rfl⟩ := hv.spec
    obtain ⟨hcanonicals, rfl⟩ := hrest.spec
    exact ⟨⟨hcanonical, hcanonicals⟩, rfl⟩

end

mutual

/-- A canonical value is spelled as its encoding. -/
theorem spelledAs_encoding : ∀ v : Value, v.IsCanonical → SpelledAs v v.encoding
  | .bool _, _ => .bool (Bytes.isWord_bool_iff.mpr rfl)
  | .int n, _ => .int (toNat_toUInt64 n ▸ Bytes.isWord64_iff.mpr rfl)
  | .uint _, _ => .uint (Bytes.isWord64_iff.mpr rfl)
  | .timestamp _, _ => .timestamp (Bytes.isWord64_iff.mpr rfl)
  | .flags _, _ => .flags (Bytes.isWord32_iff.mpr rfl)
  | .double _, _ => .double (Bytes.isWord64_iff.mpr rfl)
  | .string s, _ => .string s
  | .bytes b, _ => .bytes b
  | .array items, h => .array (itemsSpelledAs_encoding items h)
  | .map entries, h => .map h.1 (entriesSpelledAs_encoding entries h.2)

theorem itemsSpelledAs_encoding : ∀ vs : List Value, ItemsCanonical vs →
    ItemsSpelledAs vs (itemsEncoding vs)
  | [], _ => .nil
  | v :: vs, h => .cons (spelledAs_encoding v h.1) (itemsSpelledAs_encoding vs h.2)

theorem entriesSpelledAs_encoding : ∀ entries : List (String × Value), EntriesCanonical entries →
    EntriesSpelledAs entries (entriesEncoding entries)
  | [], _ => .nil
  | (_, v) :: rest, h => .cons (spelledAs_encoding v h.1) (entriesSpelledAs_encoding rest h.2)

end

/-- **A canonical value is spelled as its encoding and as nothing else**, and no other value is
spelled at all. -/
theorem spelledAs_iff (v : Value) (bytes : Bytes) :
    SpelledAs v bytes ↔ v.IsCanonical ∧ bytes = v.encoding := by
  constructor
  · exact SpelledAs.spec
  · rintro ⟨h, rfl⟩
    exact spelledAs_encoding v h

end Value

/-! ### Records -/

/-- An attribute map is spelled entry by entry, in ascending order of keys. -/
def Attributes.SpelledAs (m : Attributes) (bytes : Bytes) : Prop :=
  m.Ascending ∧ Value.EntriesSpelledAs m bytes

theorem Attributes.spelledAs_iff (m : Attributes) (bytes : Bytes) :
    m.SpelledAs bytes ↔ m.IsCanonical ∧ bytes = Attributes.encoding m := by
  constructor
  · rintro ⟨hascending, h⟩
    exact ⟨⟨hascending, h.spec.1⟩, h.spec.2⟩
  · rintro ⟨⟨hascending, hcanonical⟩, rfl⟩
    exact ⟨hascending, Value.entriesSpelledAs_encoding m hcanonical⟩

/-- A resource is spelled as its attributes, how many were dropped, and its schema. -/
def Resource.SpelledAs (r : Resource) (bytes : Bytes) : Prop :=
  ∃ attr dropped, Attributes.SpelledAs r.attr attr ∧ Bytes.IsWord 4 r.dropped.toNat dropped ∧
    bytes = attr ++ dropped ++ Text.utf8 r.schema

theorem Resource.spelledAs_iff (r : Resource) (bytes : Bytes) :
    r.SpelledAs bytes ↔ Attributes.IsCanonical r.attr ∧ bytes = r.encoding := by
  simp only [SpelledAs, Attributes.spelledAs_iff, Bytes.isWord32_iff]
  constructor
  · rintro ⟨attr, dropped, ⟨hcanonical, rfl⟩, rfl, rfl⟩
    exact ⟨hcanonical, rfl⟩
  · rintro ⟨hcanonical, rfl⟩
    exact ⟨_, _, ⟨hcanonical, rfl⟩, rfl, rfl⟩

/-- A scope is spelled as its name, its version, its attributes, how many were dropped, and its
schema. -/
def Scope.SpelledAs (s : Scope) (bytes : Bytes) : Prop :=
  ∃ attr dropped, Attributes.SpelledAs s.attr attr ∧ Bytes.IsWord 4 s.dropped.toNat dropped ∧
    bytes = Text.utf8 s.name ++ Text.utf8 s.version ++ attr ++ dropped ++ Text.utf8 s.schema

theorem Scope.spelledAs_iff (s : Scope) (bytes : Bytes) :
    s.SpelledAs bytes ↔ Attributes.IsCanonical s.attr ∧ bytes = s.encoding := by
  simp only [SpelledAs, Attributes.spelledAs_iff, Bytes.isWord32_iff]
  constructor
  · rintro ⟨attr, dropped, ⟨hcanonical, rfl⟩, rfl, rfl⟩
    exact ⟨hcanonical, rfl⟩
  · rintro ⟨hcanonical, rfl⟩
    exact ⟨_, _, ⟨hcanonical, rfl⟩, rfl, rfl⟩

/-- The identity of a metric is spelled as the ids of its resource and of its scope, its name, its
type, its unit, its temporality, and whether it is monotonic. -/
def MetricIdentity.SpelledAs (i : MetricIdentity) (bytes : Bytes) : Prop :=
  ∃ resource scope monotonic, Bytes.IsWord 8 i.resource.number resource ∧
    Bytes.IsWord 8 i.scope.number scope ∧ Bytes.IsWord 1 i.monotonic.toNat monotonic ∧
    bytes = resource ++ scope ++ Text.utf8 i.name ++ Text.utf8 i.kind ++ Text.utf8 i.unit ++
      Text.utf8 i.temporality ++ monotonic

theorem MetricIdentity.spelledAs_iff (i : MetricIdentity) (bytes : Bytes) :
    i.SpelledAs bytes ↔ bytes = i.encoding := by
  constructor
  · rintro ⟨resource, scope, monotonic, hresource, hscope, hmonotonic, rfl⟩
    rw [(Bytes.isWord_id_iff i.resource).mp hresource, (Bytes.isWord_id_iff i.scope).mp hscope,
      Bytes.isWord_bool_iff.mp hmonotonic]
    rfl
  · rintro rfl
    exact ⟨_, _, _, (Bytes.isWord_id_iff i.resource).mpr rfl,
      (Bytes.isWord_id_iff i.scope).mpr rfl, Bytes.isWord_bool_iff.mpr rfl, rfl⟩

/-! ### Requests -/

/-- The names of headers come in ascending order, each before its values. -/
def Headers.SpelledAs (headers : Headers) (bytes : Bytes) : Prop :=
  ∃ names : List String, names.Pairwise (fun a b => Text.compareBytes a b = .lt) ∧
    (∀ name, name ∈ names ↔ (headers.get? name).isSome) ∧
    bytes = names.flatMap fun name =>
      Text.utf8 name ++ ((headers.get? name).getD []).flatMap Text.utf8

theorem Headers.encoding_eq (headers : Headers) :
    headers.encoding = headers.keys.flatMap fun name =>
      Text.utf8 name ++ ((headers.get? name).getD []).flatMap Text.utf8 := by
  rw [encoding, Table.keys, List.flatMap_map]
  refine List.flatMap_congr fun entry hentry => ?_
  have hget : headers.get? entry.1 = some entry.2 := Table.get?_eq_some_iff.mpr hentry
  rw [hget, Option.getD_some]

theorem Headers.spelledAs_iff (headers : Headers) (bytes : Bytes) :
    headers.SpelledAs bytes ↔ bytes = headers.encoding := by
  rw [encoding_eq]
  constructor
  · rintro ⟨names, hascending, hnames, rfl⟩
    -- there is only one way to list the names in ascending order
    have hkeys : names = headers.keys := Table.eq_of_ascending hascending headers.ascending
      fun name => (hnames name).trans Table.isSome_get?_iff
    rw [hkeys]
  · rintro rfl
    exact ⟨headers.keys, headers.ascending, fun name => Table.isSome_get?_iff.symm, rfl⟩

/-- A request is spelled as its transport, its sender and its headers, if anything is known about
headers. -/
def RequestMeta.SpelledAs (r : RequestMeta) (bytes : Bytes) : Prop :=
  ∃ headers, (match r.headers with
    | some known => known.SpelledAs headers
    | none => headers = []) ∧
    bytes = Text.utf8 r.transport.name ++ Text.utf8 r.peer ++ headers

theorem RequestMeta.spelledAs_iff (r : RequestMeta) (bytes : Bytes) :
    r.SpelledAs bytes ↔ bytes = r.encoding := by
  rw [SpelledAs, encoding]
  cases r.headers with
  | none => simp
  | some headers => simp [Headers.spelledAs_iff]

/-- **How the headers of a request are spelled**: every name that is kept, in ascending order and in
lower case, and behind it its values in the order in which they arrived. -/
theorem RequestMeta.exists_encoding_withHeaders (transport : Transport) (peer : String)
    (sent : List (String × String)) :
    ∃ names : List String, names.Pairwise (fun a b => Text.compareBytes a b = .lt) ∧
      (∀ name, name ∈ names ↔ Headers.IsKept name ∧ Headers.valuesOf name sent ≠ []) ∧
      (withHeaders transport peer sent).encoding =
        Text.utf8 transport.name ++ Text.utf8 peer ++ names.flatMap fun name =>
          Text.utf8 name ++ (Headers.valuesOf name sent).flatMap Text.utf8 := by
  have hnames (name : String) : name ∈ (Headers.ofList sent).keys ↔
      Headers.IsKept name ∧ Headers.valuesOf name sent ≠ [] := by
    rw [← Table.isSome_get?_iff, Headers.get?_ofList]
    split <;> simp [*]
  refine ⟨(Headers.ofList sent).keys, (Headers.ofList sent).ascending, hnames, ?_⟩
  rw [withHeaders, encoding]
  dsimp only
  rw [Headers.encoding_eq]
  congr 1
  refine List.flatMap_congr fun name hname => ?_
  rw [Headers.getD_get?_ofList sent ((hnames name).mp hname).1]

/-! ### The digest -/

namespace Digest

/-- FNV-1a over natural numbers, from any state on: a byte is mixed in, and the result is multiplied
by the prime and cut to 64 bits. -/
def fnv1a (state : Nat) (bytes : Bytes) : Nat :=
  bytes.foldl (fun hash byte => (hash ^^^ byte.toNat) * 1099511628211 % 2 ^ 64) state

theorem toNat_writeByte (d : Digest) (b : UInt8) :
    (d.writeByte b).state.toNat = (d.state.toNat ^^^ b.toNat) * 1099511628211 % 2 ^ 64 := by
  rw [writeByte, UInt64.toNat_mul, UInt64.toNat_xor, UInt8.toNat_toUInt64]
  rfl

theorem toNat_write (d : Digest) (bytes : Bytes) :
    (d.write bytes).state.toNat = fnv1a d.state.toNat bytes := by
  unfold write fnv1a
  induction bytes generalizing d with
  | nil => rfl
  | cons b rest ih => rw [List.foldl_cons, List.foldl_cons, ih, toNat_writeByte]

/-- The digest of the letter `a`. -/
example : (start.write [0x61]).state = 0xaf63dc4c8601ec8c := by decide

/-- Pieces may be written one after the other or all at once. -/
theorem foldl_write (d : Digest) (pieces : List Bytes) :
    pieces.foldl write d = d.write pieces.flatten := by
  induction pieces generalizing d with
  | nil => rfl
  | cons piece pieces ih => rw [List.foldl_cons, ih, List.flatten_cons, write_append]

/-- Feeding comes to writing one encoding, whatever was written before, and the encoding is how
canonical things are spelled. -/
structure IsFlat {α : Type} (feed : Digest → α → Digest) (encoding : α → Bytes)
    (IsCanonical : α → Prop) (SpelledAs : α → Bytes → Prop) : Prop where
  feed_eq : ∀ d a, feed d a = d.write (encoding a)
  spelledAs_iff : ∀ a bytes, SpelledAs a bytes ↔ IsCanonical a ∧ bytes = encoding a

/-- **A digest is FNV-1a of one byte string.**  Whatever is fed to a digest in whatever state,
values and attribute maps, requests, resources, scopes and the identities of metrics, comes to one
write of its encoding, which is the byte string that canonical things are spelled as.  How it is cut
up does not matter, so an id is told by the encoding. -/
theorem feeds_flat_bytes :
    (start.state.toNat = 14695981039346656037 ∧
      ∀ (d : Digest) bytes, (d.write bytes).state.toNat = fnv1a d.state.toNat bytes) ∧
    ((∀ (d : Digest) a b, d.write (a ++ b) = (d.write a).write b) ∧
      ∀ (d : Digest) (pieces : List Bytes), pieces.foldl write d = d.write pieces.flatten) ∧
    (IsFlat Value.feed Value.encoding Value.IsCanonical Value.SpelledAs ∧
      IsFlat Attributes.feed Attributes.encoding Attributes.IsCanonical Attributes.SpelledAs ∧
      IsFlat RequestMeta.feed RequestMeta.encoding (fun _ => True) RequestMeta.SpelledAs ∧
      IsFlat Resource.feed Resource.encoding (fun r => Attributes.IsCanonical r.attr)
        Resource.SpelledAs ∧
      IsFlat Scope.feed Scope.encoding (fun s => Attributes.IsCanonical s.attr) Scope.SpelledAs ∧
      IsFlat MetricIdentity.feed MetricIdentity.encoding (fun _ => True)
        MetricIdentity.SpelledAs) ∧
    (∀ transport peer sent, ∃ names : List String,
      names.Pairwise (fun a b => Text.compareBytes a b = .lt) ∧
      (∀ name, name ∈ names ↔ Headers.IsKept name ∧ Headers.valuesOf name sent ≠ []) ∧
      (RequestMeta.withHeaders transport peer sent).encoding =
        Text.utf8 transport.name ++ Text.utf8 peer ++ names.flatMap fun name =>
          Text.utf8 name ++ (Headers.valuesOf name sent).flatMap Text.utf8) ∧
    (∀ r : RequestMeta, r.id = .ofDigest (start.write r.encoding)) ∧
    (∀ r : Resource, r.id = .ofDigest (start.write r.encoding)) ∧
    (∀ s : Scope, s.id = .ofDigest (start.write s.encoding)) ∧
    (∀ i : MetricIdentity, i.id = .ofDigest (start.write i.encoding)) ∧
    ∀ m : Attributes, Attributes.streamId m = .ofDigest (start.write (Attributes.encoding m)) := by
  refine ⟨⟨rfl, toNat_write⟩, ⟨write_append, foldl_write⟩,
    ⟨⟨Value.feed_eq_write, Value.spelledAs_iff⟩,
    ⟨Attributes.feed_eq_write, Attributes.spelledAs_iff⟩, ⟨RequestMeta.feed_eq_write, ?_⟩,
    ⟨Resource.feed_eq_write, Resource.spelledAs_iff⟩, ⟨Scope.feed_eq_write, Scope.spelledAs_iff⟩,
    MetricIdentity.feed_eq_write, ?_⟩, RequestMeta.exists_encoding_withHeaders, fun r => ?_,
    fun r => ?_, fun s => ?_, fun i => ?_, fun m => ?_⟩
  · simp only [RequestMeta.spelledAs_iff, true_and, implies_true]
  · simp only [MetricIdentity.spelledAs_iff, true_and, implies_true]
  · rw [RequestMeta.id, RequestMeta.feed_eq_write]
  · rw [Resource.id, Resource.feed_eq_write]
  · rw [Scope.id, Scope.feed_eq_write]
  · rw [MetricIdentity.id, MetricIdentity.feed_eq_write]
  · rw [Attributes.streamId, Attributes.digest, Attributes.feed_eq_write]

end Digest

end Telemetry
