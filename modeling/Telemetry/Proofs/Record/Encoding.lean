import Mathlib.Data.List.Basic
import Telemetry.Record.Metric

/-!
# What records feed to the digest

Values and records are fed to a digest piece by piece.  That comes to writing one byte string, the
encoding (`Value.feed_eq_write` and its likes), so an id is the digest of an encoding and equal
encodings have equal ids.
-/

namespace Telemetry

/-! ### Bytes -/

theorem Text.utf8_append (s t : String) : utf8 (s ++ t) = utf8 s ++ utf8 t := by
  rw [utf8, String.toByteArray_append, ByteArray.data_append, Array.toList_append]
  rfl

theorem toUInt8_inj {a b : Bool} : a.toUInt8 = b.toUInt8 ↔ a = b := by
  cases a <;> cases b <;> decide

theorem Id.ofDigest_inj {kind : IdKind} {d e : Digest} :
    (Id.ofDigest d : Id kind) = .ofDigest e ↔ d = e := by
  constructor
  · intro h
    have hstate : d.state = e.state := UInt64.toNat_inj.mp (congrArg Id.number h)
    cases d
    exact congrArg Digest.mk hstate
  · rintro rfl
    rfl

theorem Bytes.bigEndian_inj {width m n : Nat} (hm : m < capacity width) (hn : n < capacity width)
    (h : bigEndian width m = bigEndian width n) : m = n := by
  have hread := congrArg toNat h
  rwa [toNat_bigEndian, toNat_bigEndian, Nat.mod_eq_of_lt hm, Nat.mod_eq_of_lt hn] at hread

theorem Id.bytes_inj {kind : IdKind} {i j : Id kind} : i.bytes = j.bytes ↔ i = j := by
  constructor
  · intro h
    have hnumber := Bytes.bigEndian_inj i.isLt j.isLt h
    cases i
    cases j
    cases hnumber
    rfl
  · rintro rfl
    rfl

@[simp] theorem Id.length_bytes {kind : IdKind} (i : Id kind) : i.bytes.length = kind.width :=
  Bytes.length_bigEndian _ _

/-! ### Values -/

namespace Value

mutual

/-- **Feeding a value is writing its encoding.** -/
theorem feed_eq_write (d : Digest) : ∀ v : Value, v.feed d = d.write v.encoding
  | .bool _ | .int _ | .uint _ | .timestamp _ | .flags _ | .double _ | .string _ | .bytes _ => rfl
  | .array items => feedItems_eq_write d items
  | .map entries => feedEntries_eq_write d entries

theorem feedItems_eq_write (d : Digest) :
    ∀ items : List Value, feedItems d items = d.write (itemsEncoding items)
  | [] => rfl
  | v :: vs => by
    rw [feedItems, itemsEncoding, Digest.write_append, feed_eq_write, feedItems_eq_write]

theorem feedEntries_eq_write (d : Digest) :
    ∀ entries : List (String × Value), feedEntries d entries = d.write (entriesEncoding entries)
  | [] => rfl
  | (k, v) :: rest => by
    rw [feedEntries, entriesEncoding, Digest.write_append, Digest.write_append, feed_eq_write,
      feedEntries_eq_write]
    rfl

end

end Value

theorem Attributes.feed_eq_write (d : Digest) (m : Attributes) :
    Attributes.feed d m = d.write (Attributes.encoding m) :=
  Value.feedEntries_eq_write d m

/-! ### Records -/

theorem Resource.feed_eq_write (d : Digest) (r : Resource) : r.feed d = d.write r.encoding := by
  rw [Resource.feed, encoding, Digest.write_append, Digest.write_append, Attributes.feed_eq_write]
  rfl

theorem Scope.feed_eq_write (d : Digest) (s : Scope) : s.feed d = d.write s.encoding := by
  rw [Scope.feed, encoding, Digest.write_append, Digest.write_append, Digest.write_append,
    Digest.write_append, Attributes.feed_eq_write]
  rfl

theorem Digest.foldl_writeText (d : Digest) (texts : List String) :
    texts.foldl writeText d = d.write (texts.flatMap Text.utf8) := by
  induction texts generalizing d with
  | nil => rfl
  | cons text texts ih =>
    rw [List.foldl_cons, ih, List.flatMap_cons, write_append]
    rfl

theorem Headers.feed_eq_write (d : Digest) (headers : Headers) :
    headers.feed d = d.write headers.encoding := by
  unfold Headers.feed Headers.encoding
  induction headers.entries generalizing d with
  | nil => rfl
  | cons entry entries ih =>
    obtain ⟨name, values⟩ := entry
    rw [List.foldl_cons, ih, List.flatMap_cons, Digest.write_append, Digest.write_append]
    dsimp only
    rw [Digest.foldl_writeText]
    rfl

theorem RequestMeta.feed_eq_write (d : Digest) (r : RequestMeta) :
    r.feed d = d.write r.encoding := by
  rw [RequestMeta.feed, encoding, Digest.write_append, Digest.write_append]
  cases r.headers with
  | none => rfl
  | some headers => exact headers.feed_eq_write _

namespace MetricIdentity

theorem feed_eq_write (d : Digest) (i : MetricIdentity) : i.feed d = d.write i.encoding := by
  rw [encoding, Digest.write_append, Digest.write_append, Digest.write_append,
    Digest.write_append, Digest.write_append, Digest.write_append]
  rfl

theorem id_eq_iff {i j : MetricIdentity} :
    i.id = j.id ↔ Digest.start.write i.encoding = Digest.start.write j.encoding := by
  rw [id, id, Id.ofDigest_inj, feed_eq_write, feed_eq_write]

/-- The texts of an identity, written one after the other. -/
def text (i : MetricIdentity) : String :=
  i.name ++ i.kind ++ i.unit ++ i.temporality

/-- **What the encoding of an identity tells**: where it comes from, whether it is monotonic, and
its texts, but not where one text ends and the next begins. -/
theorem encoding_eq_iff {i j : MetricIdentity} :
    i.encoding = j.encoding ↔ i.resource = j.resource ∧ i.scope = j.scope ∧
      i.text = j.text ∧ i.monotonic = j.monotonic := by
  have hencoding (i : MetricIdentity) : i.encoding =
      i.resource.bytes ++ (i.scope.bytes ++ (Text.utf8 i.text ++ [i.monotonic.toUInt8])) := by
    rw [encoding, text, Text.utf8_append, Text.utf8_append, Text.utf8_append]
    simp only [List.append_assoc]
  rw [hencoding, hencoding]
  constructor
  · intro h
    obtain ⟨hresource, h⟩ := List.append_inj h (by simp)
    obtain ⟨hscope, h⟩ := List.append_inj h (by simp)
    obtain ⟨htext, h⟩ := List.append_inj' h rfl
    exact ⟨Id.bytes_inj.mp hresource, Id.bytes_inj.mp hscope, Text.utf8_injective htext,
      toUInt8_inj.mp (List.cons.inj h).1⟩
  · rintro ⟨hresource, hscope, htext, hmonotonic⟩
    rw [hresource, hscope, htext, hmonotonic]

end MetricIdentity

end Telemetry
