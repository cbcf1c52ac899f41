import Mathlib.Logic.Function.Basic
import Telemetry.Proofs.Record.Encoding

/-!
# Small differences reach the digest

A step of the digest is undone by one that multiplies by the inverse of the prime modulo `2^64`
(`Digest.primeInverse`), so it loses nothing: for each byte it is a bijection of the digests
(`Digest.writeByte_bijective`), and so is the writing of a whole byte string
(`Digest.write_bijective`).  What has gone apart therefore stays apart, whatever is written behind
it, and byte strings that differ at one position only have different digests
(`Digest.write_ne_of_differOnce`).

Values that are one byte apart, however deep inside, have encodings of that sort
(`Value.OneByteApart.differOnce`), so a single byte of a record is always told by its id
(`digest_tells_single_bytes`).
-/

namespace Telemetry

/-! ### The step of the digest -/

namespace Digest

/-- The inverse of the prime modulo `2^64`. -/
def primeInverse : UInt64 := 0xce965057aff6957b

theorem prime_mul_primeInverse : prime * primeInverse = 1 := by
  decide

/-- The digest before a byte was written. -/
def unwriteByte (d : Digest) (b : UInt8) : Digest :=
  ⟨d.state * primeInverse ^^^ b.toUInt64⟩

@[simp] theorem unwriteByte_writeByte (d : Digest) (b : UInt8) :
    (d.writeByte b).unwriteByte b = d := by
  rw [writeByte, unwriteByte, UInt64.mul_assoc, prime_mul_primeInverse, UInt64.mul_one,
    UInt64.xor_assoc, UInt64.xor_self, UInt64.xor_zero]

@[simp] theorem writeByte_unwriteByte (d : Digest) (b : UInt8) :
    (d.unwriteByte b).writeByte b = d := by
  have hinverse : primeInverse * prime = 1 := by
    rw [UInt64.mul_comm, prime_mul_primeInverse]
  rw [writeByte, unwriteByte, UInt64.xor_assoc, UInt64.xor_self, UInt64.xor_zero,
    UInt64.mul_assoc, hinverse, UInt64.mul_one]

/-- **A step loses nothing.** -/
theorem writeByte_bijective (b : UInt8) : Function.Bijective fun d : Digest => d.writeByte b :=
  Function.bijective_iff_has_inverse.mpr
    ⟨fun d => d.unwriteByte b, fun d => unwriteByte_writeByte d b,
      fun d => writeByte_unwriteByte d b⟩

/-- Writing a byte string loses nothing: it is one step after the other. -/
theorem write_bijective (bytes : Bytes) : Function.Bijective fun d : Digest => d.write bytes := by
  induction bytes with
  | nil => exact Function.bijective_id
  | cons b bytes ih => exact ih.comp (writeByte_bijective b)

theorem write_inj {d e : Digest} {bytes : Bytes} : d.write bytes = e.write bytes ↔ d = e :=
  (write_bijective bytes).injective.eq_iff

/-- Different bytes take a digest to different digests. -/
theorem writeByte_inj_byte {d : Digest} {x y : UInt8} :
    d.writeByte x = d.writeByte y ↔ x = y := by
  constructor
  · intro h
    have hmixed : (⟨d.state ^^^ x.toUInt64⟩ : Digest) = ⟨d.state ^^^ y.toUInt64⟩ := by
      have hundone := congrArg (fun e => e.unwriteByte 0) h
      simpa [writeByte, unwriteByte, UInt64.mul_assoc, prime_mul_primeInverse] using hundone
    have hwide : x.toUInt64 = y.toUInt64 := (UInt64.xor_right_inj _).mp (Digest.mk.inj hmixed)
    exact UInt8.toUInt64_inj.mp hwide
  · rintro rfl
    rfl

/-- **What has gone apart stays apart**: no bytes behind two byte strings make their digests equal
again. -/
theorem write_append_eq_iff (a b s : Bytes) :
    start.write (a ++ s) = start.write (b ++ s) ↔ start.write a = start.write b := by
  rw [write_append, write_append, write_inj]

end Digest

/-! ### Byte strings that differ at one position -/

namespace Bytes

/-- The byte strings have the same length and differ at exactly one position. -/
def DifferOnce (a b : Bytes) : Prop :=
  a.length = b.length ∧ ∃! i : Nat, a[i]? ≠ b[i]?

/-- Before and behind the one position there are the same bytes. -/
theorem differOnce_iff {a b : Bytes} :
    DifferOnce a b ↔ ∃ front back x y, x ≠ y ∧ a = front ++ x :: back ∧ b = front ++ y :: back := by
  constructor
  · rintro ⟨hlength, i, hi, hunique⟩
    have hsame {j : Nat} (hj : j ≠ i) : a[j]? = b[j]? := by
      by_contra hne
      exact hj (hunique j hne)
    have hia : i < a.length := by
      by_contra hbeyond
      rw [List.getElem?_eq_none (by omega), List.getElem?_eq_none (by omega)] at hi
      exact hi rfl
    have hib : i < b.length := hlength ▸ hia
    have hfront : a.take i = b.take i := by
      apply List.ext_getElem?
      intro j
      rw [List.getElem?_take, List.getElem?_take]
      split
      · exact hsame (by omega)
      · rfl
    have hback : a.drop (i + 1) = b.drop (i + 1) := by
      apply List.ext_getElem?
      intro j
      rw [List.getElem?_drop, List.getElem?_drop]
      exact hsame (by omega)
    refine ⟨a.take i, a.drop (i + 1), a[i], b[i], ?_, ?_, ?_⟩
    · rw [List.getElem?_eq_getElem hia, List.getElem?_eq_getElem hib] at hi
      exact fun h => hi (congrArg some h)
    · rw [← List.drop_eq_getElem_cons hia, List.take_append_drop]
    · rw [hfront, hback, ← List.drop_eq_getElem_cons hib, List.take_append_drop]
  · rintro ⟨front, back, x, y, hxy, rfl, rfl⟩
    refine ⟨by simp, front.length, ?_, fun j hj => ?_⟩
    · simpa using hxy
    · by_contra hne
      apply hj
      rw [List.getElem?_append, List.getElem?_append]
      split
      · rfl
      · obtain ⟨k, hk⟩ : ∃ k, j - front.length = k + 1 := ⟨j - front.length - 1, by omega⟩
        rw [hk, List.getElem?_cons_succ, List.getElem?_cons_succ]

/-- The same bytes in front and behind leave one difference. -/
theorem DifferOnce.append {a b : Bytes} (h : DifferOnce a b) (before after : Bytes) :
    DifferOnce (before ++ a ++ after) (before ++ b ++ after) := by
  obtain ⟨front, back, x, y, hxy, rfl, rfl⟩ := differOnce_iff.mp h
  exact differOnce_iff.mpr ⟨before ++ front, back ++ after, x, y, hxy, by simp, by simp⟩

theorem differOnce_singleton {x y : UInt8} (h : x ≠ y) : DifferOnce [x] [y] :=
  differOnce_iff.mpr ⟨[], [], x, y, h, rfl, rfl⟩

end Bytes

/-- **One byte makes a difference.**  It takes the digest elsewhere, and the bytes behind it do not
bring it back. -/
theorem Digest.write_ne_of_differOnce {a b : Bytes} (h : Bytes.DifferOnce a b) (d : Digest) :
    d.write a ≠ d.write b := by
  obtain ⟨front, back, x, y, hxy, rfl, rfl⟩ := Bytes.differOnce_iff.mp h
  intro heq
  rw [write_append, write_append] at heq
  have hstep : (d.write front).writeByte x = (d.write front).writeByte y := write_inj.mp heq
  exact hxy (writeByte_inj_byte.mp hstep)

/-! ### Values that are one byte apart -/

/-- Values that are the same but for one byte, which may be a byte of a scalar or of a key, at any
depth. -/
inductive Value.OneByteApart : Value → Value → Prop where
  | scalar {v w : Value} : Bytes.DifferOnce v.encoding w.encoding → OneByteApart v w
  | item {v w : Value} (before after : List Value) : OneByteApart v w →
      OneByteApart (.array (before ++ v :: after)) (.array (before ++ w :: after))
  | value {v w : Value} (before after : Attributes) (key : String) : OneByteApart v w →
      OneByteApart (.map (before ++ (key, v) :: after)) (.map (before ++ (key, w) :: after))
  | key {j k : String} (before after : Attributes) (v : Value) :
      Bytes.DifferOnce (Text.utf8 j) (Text.utf8 k) →
      OneByteApart (.map (before ++ (j, v) :: after)) (.map (before ++ (k, v) :: after))

namespace Value

theorem itemsEncoding_append (vs ws : List Value) :
    itemsEncoding (vs ++ ws) = itemsEncoding vs ++ itemsEncoding ws := by
  induction vs with
  | nil => rfl
  | cons v vs ih => rw [List.cons_append, itemsEncoding, itemsEncoding, ih, List.append_assoc]

theorem entriesEncoding_append (m n : Attributes) :
    entriesEncoding (m ++ n) = entriesEncoding m ++ entriesEncoding n := by
  induction m with
  | nil => rfl
  | cons entry m ih =>
    rw [List.cons_append, entriesEncoding, entriesEncoding, ih, List.append_assoc (_ ++ _)]

/-- **However deep the byte is, the encodings differ at one position only.** -/
theorem OneByteApart.differOnce {v w : Value} (h : OneByteApart v w) :
    Bytes.DifferOnce v.encoding w.encoding := by
  induction h with
  | scalar h => exact h
  | @item v w before after _ ih =>
    have hencoding (u : Value) : (Value.array (before ++ u :: after)).encoding =
        itemsEncoding before ++ u.encoding ++ itemsEncoding after := by
      rw [encoding, itemsEncoding_append, itemsEncoding, List.append_assoc]
    rw [hencoding, hencoding]
    exact ih.append _ _
  | @value v w before after key _ ih =>
    have hencoding (u : Value) : (Value.map (before ++ (key, u) :: after)).encoding =
        (entriesEncoding before ++ Text.utf8 key) ++ u.encoding ++ entriesEncoding after := by
      rw [encoding, entriesEncoding_append, entriesEncoding]
      simp only [List.append_assoc]
    rw [hencoding, hencoding]
    exact ih.append _ _
  | @key j k before after v h =>
    have hencoding (l : String) : (Value.map (before ++ (l, v) :: after)).encoding =
        entriesEncoding before ++ Text.utf8 l ++ (v.encoding ++ entriesEncoding after) := by
      rw [encoding, entriesEncoding_append, entriesEncoding]
      simp only [List.append_assoc]
    rw [hencoding, hencoding]
    exact h.append _ _

end Value

/-! ### Records -/

/-- A record that feeds its encoding tells every single byte of it. -/
theorem Id.ofDigest_ne_of_differOnce {kind : IdKind} {α : Type} (feed : Digest → α → Digest)
    {encoding : α → Bytes} (hfeed : ∀ d a, feed d a = d.write (encoding a)) {a b : α}
    (h : Bytes.DifferOnce (encoding a) (encoding b)) :
    (Id.ofDigest (feed .start a) : Id kind) ≠ .ofDigest (feed .start b) := by
  rw [hfeed, hfeed]
  exact fun heq => Digest.write_ne_of_differOnce h .start (Id.ofDigest_inj.mp heq)

/-- Identities that only differ in being monotonic differ in the last byte they feed. -/
theorem MetricIdentity.differOnce_of_monotonic_ne {i j : MetricIdentity}
    (hsame : { i with monotonic := j.monotonic } = j) (hne : i.monotonic ≠ j.monotonic) :
    Bytes.DifferOnce i.encoding j.encoding := by
  have hbyte : i.monotonic.toUInt8 ≠ j.monotonic.toUInt8 := fun h => hne (toUInt8_inj.mp h)
  have hencoding (b : Bool) : ({ i with monotonic := b } : MetricIdentity).encoding =
      (i.resource.bytes ++ i.scope.bytes ++ Text.utf8 i.name ++ Text.utf8 i.kind ++
        Text.utf8 i.unit ++ Text.utf8 i.temporality) ++ [b.toUInt8] ++ [] := by
    rw [List.append_nil]
    rfl
  rw [← hsame, show i.encoding = _ from hencoding i.monotonic, hencoding]
  exact (Bytes.differOnce_singleton hbyte).append _ _

/-- **A single byte is always told.**  Writing a byte is a bijection of the digests.  So digests are
equal before a common end if they are equal behind it, and byte strings that differ at one position
have different digests.  An identity that is monotonic and one that is not never have the same id,
nor have any two records whose encodings differ at one position, and attributes in which the byte is
at any depth make such records. -/
theorem digest_tells_single_bytes :
    (∀ b : UInt8, Function.Bijective fun d : Digest => d.writeByte b) ∧
    (∀ a b s : Bytes, Digest.start.write (a ++ s) = Digest.start.write (b ++ s) ↔
      Digest.start.write a = Digest.start.write b) ∧
    (∀ a b : Bytes, Bytes.DifferOnce a b → Digest.start.write a ≠ Digest.start.write b) ∧
    (∀ i j : MetricIdentity, { i with monotonic := j.monotonic } = j → i.monotonic ≠ j.monotonic →
      i.id ≠ j.id) ∧
    (∀ a b : RequestMeta, Bytes.DifferOnce a.encoding b.encoding → a.id ≠ b.id) ∧
    (∀ a b : Resource, Bytes.DifferOnce a.encoding b.encoding → a.id ≠ b.id) ∧
    (∀ a b : Scope, Bytes.DifferOnce a.encoding b.encoding → a.id ≠ b.id) ∧
    (∀ i j : MetricIdentity, Bytes.DifferOnce i.encoding j.encoding → i.id ≠ j.id) ∧
    (∀ v w : Value, v.OneByteApart w → v.digest ≠ w.digest) ∧
    ∀ m n : Attributes, (Value.map m).OneByteApart (.map n) →
      Attributes.streamId m ≠ Attributes.streamId n ∧
      (∀ dropped schema, (Resource.mk m dropped schema).id ≠ (Resource.mk n dropped schema).id) ∧
      ∀ name version dropped schema,
        (Scope.mk name version m dropped schema).id ≠
          (Scope.mk name version n dropped schema).id := by
  have hresource (a b : Resource) (h : Bytes.DifferOnce a.encoding b.encoding) : a.id ≠ b.id :=
    Id.ofDigest_ne_of_differOnce (fun d r => Resource.feed d r) Resource.feed_eq_write h
  have hscope (a b : Scope) (h : Bytes.DifferOnce a.encoding b.encoding) : a.id ≠ b.id :=
    Id.ofDigest_ne_of_differOnce (fun d s => Scope.feed d s) Scope.feed_eq_write h
  have hidentity (i j : MetricIdentity) (h : Bytes.DifferOnce i.encoding j.encoding) :
      i.id ≠ j.id :=
    Id.ofDigest_ne_of_differOnce (fun d i => MetricIdentity.feed d i)
      MetricIdentity.feed_eq_write h
  refine ⟨Digest.writeByte_bijective, Digest.write_append_eq_iff,
    fun a b h => Digest.write_ne_of_differOnce h .start,
    fun i j hsame hne => hidentity i j (MetricIdentity.differOnce_of_monotonic_ne hsame hne),
    fun a b h => ?_, hresource, hscope, hidentity, fun v w h => ?_, fun m n h => ?_⟩
  · exact Id.ofDigest_ne_of_differOnce (fun d r => RequestMeta.feed d r)
      RequestMeta.feed_eq_write h
  · rw [Value.digest, Value.digest, Value.feed_eq_write, Value.feed_eq_write]
    exact Digest.write_ne_of_differOnce h.differOnce .start
  · have hattr : Bytes.DifferOnce (Attributes.encoding m) (Attributes.encoding n) := h.differOnce
    refine ⟨?_, fun dropped schema => hresource _ _ ?_,
      fun name version dropped schema => hscope _ _ ?_⟩
    · exact Id.ofDigest_ne_of_differOnce (fun d m => Attributes.feed d m)
        Attributes.feed_eq_write hattr
    · simpa [Resource.encoding] using
        hattr.append [] (Bytes.bigEndian 4 dropped.toNat ++ Text.utf8 schema)
    · simpa [Scope.encoding] using
        hattr.append (Text.utf8 name ++ Text.utf8 version)
          (Bytes.bigEndian 4 dropped.toNat ++ Text.utf8 schema)

end Telemetry
