import Telemetry.Proofs.Json.Document
import Telemetry.Proofs.Record.Maps

/-!
# Layouts of values

Numbers, timestamps, flags, byte strings and ids are shown as envelopes (`Doc.shows_int` and the
like), whose texts are digits of the right kind.  A value shows what values may look like
(`Value.shows_toDoc`), where `U` holds of the keys of all maps in it.
-/

namespace Telemetry

variable {U : List String → Prop}

/-! ### Digits -/

namespace Json

theorem isDecimal_toDigits (n : Nat) : IsDecimal (Nat.toDigits 10 n) :=
  ⟨Nat.toDigits_ne_nil, fun _ => Numeral.isDigit_of_mem_toDigits⟩

theorem isDecimal_toString (n : Nat) : IsDecimal (toString n).toList := by
  rw [Nat.toString_eq_repr, Nat.toList_repr]
  exact isDecimal_toDigits n

theorem isInteger_toString (n : Int) : IsInteger (toString n).toList := by
  rw [Numeral.toList_toString_int]
  split
  · exact .inl (isDecimal_toDigits _)
  · exact .inr ⟨_, rfl, isDecimal_toDigits _⟩

theorem isHex_toDigits (n : Nat) : IsHex (Nat.toDigits 16 n) := by
  intro c hc
  obtain ⟨k, hk, rfl⟩ := Hex.exists_digit_of_mem_toDigits hc
  exact Hex.isDigit_digit hk

theorem isHex_ofBytes (b : Bytes) : IsHex (Hex.ofBytes b) := by
  intro c hc
  obtain ⟨byte, -, hbyte⟩ := List.mem_flatMap.mp hc
  obtain ⟨k, hk, rfl⟩ := Hex.exists_digit_of_mem_word hbyte
  exact Hex.isDigit_digit hk

/-- There are two digits for each byte. -/
theorem length_ofBytes (b : Bytes) : (Hex.ofBytes b).length = 2 * b.length := by
  induction b with
  | nil => rfl
  | cons byte rest ih =>
    have hcons : Hex.ofBytes (byte :: rest) = Hex.word 2 byte.toNat ++ Hex.ofBytes rest := rfl
    rw [hcons, List.length_append, Hex.length_word, ih, List.length_cons]
    omega

theorem isHexOf_hex {kind : IdKind} (id : Id kind) : IsHexOf (2 * kind.width) id.hex.toList := by
  rw [Id.hex, String.toList_ofList]
  exact ⟨Hex.length_word _ _, fun _ => Id.isDigit_of_mem_digits⟩

end Json

/-! ### Envelopes -/

namespace Doc

/-- An envelope of one tag. -/
theorem shows_envelope {kind : Json.EnvelopeKind} {tag body : String}
    {grammar : List Char → Prop} (hparts : kind.parts = [(tag, grammar)])
    (hplain : (envelope tag body).HasPlainTags) (hbody : grammar body.toList) :
    Shows U (.envelope kind) (envelope tag body) where
  plain := hplain
  conforms := by
    refine .envelope ?_
    rw [Json.IsEnvelope, hparts]
    exact .cons ⟨body, rfl, hbody⟩ .nil

theorem shows_int (n : Int64) : Shows U (.envelope .int) (.int n) :=
  shows_envelope rfl (hasPlainTags_int n) (Json.isInteger_toString n.toInt)

theorem shows_uint (n : UInt64) : Shows U (.envelope .int) (.uint n) :=
  shows_envelope rfl (hasPlainTags_uint n) (.inl (Json.isDecimal_toString n.toNat))

theorem shows_count (n : UInt32) : Shows U (.envelope .int) (.count n) :=
  shows_envelope rfl (hasPlainTags_envelope (by decide) (isPlain_toString_nat n.toNat))
    (.inl (Json.isDecimal_toString n.toNat))

theorem shows_timestamp (t : UInt64) : Shows U (.envelope .timestamp) (.timestamp t) :=
  shows_envelope rfl (hasPlainTags_timestamp t) (Json.isDecimal_toString t.toNat)

theorem shows_flags (f : UInt32) : Shows U (.envelope .flags) (.flags f) := by
  refine shows_envelope rfl (hasPlainTags_flags f) ?_
  rw [String.toList_ofList]
  exact ⟨Nat.toDigits_ne_nil, Json.isHex_toDigits f.toNat⟩

theorem shows_bytes (b : Bytes) : Shows U (.envelope .bytes) (.bytes b) := by
  refine shows_envelope rfl (hasPlainTags_bytes b) ?_
  rw [String.toList_ofList, Json.length_ofBytes]
  exact ⟨Nat.mul_mod_right 2 _, Json.isHex_ofBytes b⟩

/-- Texts of ids need no escapes. -/
theorem isPlain_hex {kind : IdKind} (id : Id kind) : IsPlain id.hex := by
  refine isPlain_ofList fun c hc => ?_
  obtain ⟨k, hk, rfl⟩ := Hex.exists_digit_of_mem_word hc
  exact plain_digit hk

theorem isPlain_tag (kind : IdKind) : IsPlain kind.tag := by
  cases kind <;> decide

theorem hasPlainTags_id {kind : IdKind} (id : Id kind) : id.toDoc.HasPlainTags :=
  hasPlainTags_envelope (isPlain_tag kind) (isPlain_hex id)

theorem shows_request (id : RequestId) : Shows U (.envelope .request) id.toDoc :=
  shows_envelope rfl (hasPlainTags_id id) (Json.isHexOf_hex id)

theorem shows_resource (id : ResourceId) : Shows U (.envelope .resource) id.toDoc :=
  shows_envelope rfl (hasPlainTags_id id) (Json.isHexOf_hex id)

theorem shows_scope (id : ScopeId) : Shows U (.envelope .scope) id.toDoc :=
  shows_envelope rfl (hasPlainTags_id id) (Json.isHexOf_hex id)

theorem shows_span (id : SpanId) : Shows U (.envelope .span) id.toDoc :=
  shows_envelope rfl (hasPlainTags_id id) (Json.isHexOf_hex id)

theorem shows_spanRef (ref : SpanRef) : Shows U (.envelope .spanRef) ref.toDoc where
  plain := by
    refine List.forall_mem_cons.mpr ⟨⟨isPlain_tag .span, isPlain_hex ref.span⟩, ?_⟩
    exact List.forall_mem_singleton.mpr ⟨isPlain_tag .trace, isPlain_hex ref.trace⟩
  conforms := .envelope (.cons ⟨ref.span.hex, rfl, Json.isHexOf_hex ref.span⟩
    (.cons ⟨ref.trace.hex, rfl, Json.isHexOf_hex ref.trace⟩ .nil))

end Doc

/-! ### Values -/

/-- The layout of an attribute map. -/
def Layout.attributes : Layout :=
  .map .value

namespace Value

theorem map_fst_entryDocs (entries : List (String × Value)) :
    (entryDocs entries).map Prod.fst = Attributes.keys entries := by
  induction entries with
  | nil => rfl
  | cons entry rest ih =>
    rw [entryDocs, List.map_cons, ih]
    rfl

theorem shows_entries {entries : List (String × Value)} (hkeys : U (Attributes.keys entries))
    (h : ∀ member ∈ entryDocs entries, member.2.Shows U .value) :
    (Doc.map (entryDocs entries)).Shows U .attributes := by
  refine Doc.shows_map ?_ h
  rw [map_fst_entryDocs]
  exact hkeys

mutual

/-- **A value shows what values may look like**, where `U` holds of the keys of all maps in it. -/
theorem shows_toDoc : ∀ (v : Value), (∀ m ∈ v.maps, U m.keys) → v.toDoc.Shows U .value
  | .bool b, _ => (Doc.shows_bool b).value (by simp [Layout.values])
  | .int n, _ => (Doc.shows_int n).value (by simp [Layout.values])
  | .uint n, _ => (Doc.shows_uint n).value (by simp [Layout.values])
  | .timestamp t, _ => (Doc.shows_timestamp t).value (by simp [Layout.values])
  | .flags f, _ => (Doc.shows_flags f).value (by simp [Layout.values])
  | .double x, _ => (Doc.shows_double x).value (by simp [Layout.values])
  | .string s, _ => (Doc.shows_string s).value (by simp [Layout.values])
  | .bytes b, _ => (Doc.shows_bytes b).value (by simp [Layout.values])
  | .array items, h => (Doc.shows_array (shows_itemDocs items h)).value (by simp [Layout.values])
  | .map entries, h => by
    rw [maps, List.forall_mem_cons] at h
    exact (shows_entries h.1 (shows_entryDocs entries h.2)).value
      (by simp [Layout.values, Layout.attributes])

theorem shows_itemDocs : ∀ items : List Value, (∀ m ∈ itemsMaps items, U m.keys) →
    ∀ doc ∈ itemDocs items, doc.Shows U .value
  | [], _ => List.forall_mem_nil _
  | v :: vs, h => by
    rw [itemsMaps, List.forall_mem_append] at h
    exact List.forall_mem_cons.mpr ⟨shows_toDoc v h.1, shows_itemDocs vs h.2⟩

theorem shows_entryDocs : ∀ entries : List (String × Value), (∀ m ∈ entriesMaps entries, U m.keys) →
    ∀ member ∈ entryDocs entries, member.2.Shows U .value
  | [], _ => List.forall_mem_nil _
  | (_, v) :: rest, h => by
    rw [entriesMaps, List.forall_mem_append] at h
    exact List.forall_mem_cons.mpr ⟨shows_toDoc v h.1, shows_entryDocs rest h.2⟩

end

end Value

theorem Attributes.shows_toDoc {attr : Attributes} (h : ∀ m ∈ attr.maps, U m.keys) :
    (Attributes.toDoc attr).Shows U .attributes := by
  rw [Attributes.maps, List.forall_mem_cons] at h
  exact Value.shows_entries h.1 (Value.shows_entryDocs attr h.2)

end Telemetry
