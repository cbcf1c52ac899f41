import Telemetry.Proofs.Value.Lookup
import Telemetry.Store.Batch

/-!
# The order of attributes

Senders may list attributes in any order.  `AnyValue.Reordered` relates two values that differ, at
any depth, in the order of entries only, where no two of the entries that change places have content
and the same key.  Such values have one canonical form (`AnyValue.Reordered.toValue?_eq`), because
the lists of entries have the same first value with content under every key
(`KeyValue.Reordered.lookup_toPairs`), and that is all that an attribute map keeps of a list
(`KeyValue.get?_toAttributes`).

`conversion_of_reordered` puts both together: ids do not depend on the order of attributes, and where
a key is given several times, the first entry that has content decides.
-/

namespace Telemetry.Otlp

/-! ### Entries with content -/

/-- A variant is set. -/
def AnyValue.hasContent : AnyValue → Bool
  | .empty => false
  | _ => true

namespace KeyValue

/-- The key of an entry. -/
def key : KeyValue → String
  | .bare key => key
  | .entry key _ => key

/-- The value of an entry, if it is present. -/
def value? : KeyValue → Option AnyValue
  | .bare _ => none
  | .entry _ value => some value

/-- The value is present and has a variant set. -/
def hasContent (e : KeyValue) : Bool :=
  e.value?.any AnyValue.hasContent

/-- The canonical form of the value, if the entry has content. -/
def toValue? (e : KeyValue) : Option Value :=
  e.value?.bind AnyValue.toValue?

end KeyValue

theorem AnyValue.isSome_toValue? (v : AnyValue) : v.toValue?.isSome = v.hasContent := by
  cases v <;> simp [AnyValue.toValue?, AnyValue.hasContent]

theorem AnyValue.toItems_eq_filterMap (vs : List AnyValue) :
    AnyValue.toItems vs = vs.filterMap AnyValue.toValue? := by
  induction vs with
  | nil => rfl
  | cons v vs ih =>
    rw [AnyValue.toItems, List.filterMap_cons, ih]
    cases v.toValue? <;> rfl

namespace KeyValue

theorem isSome_toValue? (e : KeyValue) : e.toValue?.isSome = e.hasContent := by
  cases e with
  | bare key => rfl
  | entry key v => exact v.isSome_toValue?

theorem toPairs_eq_filterMap (entries : List KeyValue) :
    KeyValue.toPairs entries =
      entries.filterMap fun e => e.toValue?.map fun value => (e.key, value) := by
  induction entries with
  | nil => rfl
  | cons e entries ih =>
    cases e with
    | bare key =>
      rw [KeyValue.toPairs, ih, List.filterMap_cons]
      rfl
    | entry key v =>
      have hvalue : (KeyValue.entry key v).toValue? = v.toValue? := rfl
      rw [KeyValue.toPairs, ih, List.filterMap_cons, hvalue]
      cases v.toValue? <;> rfl

/-- **Under each key an attribute map holds the first value with content.** -/
theorem get?_toAttributes (entries : List KeyValue) (key : String) :
    (KeyValue.toAttributes entries).get? key =
      (entries.find? fun e => e.key == key && e.hasContent).bind toValue? := by
  have hfirst : (fun e : KeyValue => (e.toValue?.map fun value => (e.key, value)).any
      fun pair => pair.1 == key) = fun e => e.key == key && e.hasContent := by
    funext e
    rw [← isSome_toValue?]
    cases e.toValue? <;> simp
  have hvalue : (entries.find? fun e => e.key == key && e.hasContent).bind
        (fun e => (e.toValue?.map fun value => (e.key, value)).map Prod.snd) =
      (entries.find? fun e => e.key == key && e.hasContent).bind toValue? := by
    congr 1
    funext e
    cases e.toValue? <;> rfl
  rw [KeyValue.toAttributes, Attributes.get?_ofPairs, Attributes.lookup_eq_find?,
    toPairs_eq_filterMap, List.find?_filterMap, hfirst, Option.map_bind]
  exact hvalue

/-- No two entries with content have the same key. -/
def KeysDiffer (entries : List KeyValue) : Prop :=
  entries.Pairwise fun a b => a.hasContent → b.hasContent → a.key ≠ b.key

theorem KeysDiffer.nodup {entries : List KeyValue} (h : KeysDiffer entries) :
    ((KeyValue.toPairs entries).map Prod.fst).Nodup := by
  rw [toPairs_eq_filterMap, List.Nodup, List.pairwise_map, List.pairwise_filterMap]
  refine h.imp fun {a b} hkeys pair hpair other hother => ?_
  obtain ⟨value, hvalue, rfl⟩ := Option.map_eq_some_iff.mp hpair
  obtain ⟨value', hvalue', rfl⟩ := Option.map_eq_some_iff.mp hother
  have ha : a.hasContent = true := by rw [← isSome_toValue?, hvalue]; rfl
  have hb : b.hasContent = true := by rw [← isSome_toValue?, hvalue']; rfl
  exact hkeys ha hb

end KeyValue

/-! ### Values in another order -/

mutual

/-- The values are the same but for the order of entries inside. -/
inductive AnyValue.Reordered : AnyValue → AnyValue → Prop where
  | refl (v : AnyValue) : AnyValue.Reordered v v
  | array {vs ws : List AnyValue} : AnyValue.ItemsReordered vs ws →
      AnyValue.Reordered (.array vs) (.array ws)
  | keyValues {xs ys : List KeyValue} : KeyValue.Reordered xs ys →
      AnyValue.Reordered (.keyValues xs) (.keyValues ys)

/-- One by one, the items are the same but for the order of entries inside. -/
inductive AnyValue.ItemsReordered : List AnyValue → List AnyValue → Prop where
  | nil : AnyValue.ItemsReordered [] []
  | cons {v w : AnyValue} {vs ws : List AnyValue} : AnyValue.Reordered v w →
      AnyValue.ItemsReordered vs ws → AnyValue.ItemsReordered (v :: vs) (w :: ws)

/-- The entries are the same but for their order, and for the order of entries inside.  Entries
change places only if no two of them have content and the same key. -/
inductive KeyValue.Reordered : List KeyValue → List KeyValue → Prop where
  | nil : KeyValue.Reordered [] []
  | bare (key : String) {xs ys : List KeyValue} : KeyValue.Reordered xs ys →
      KeyValue.Reordered (.bare key :: xs) (.bare key :: ys)
  | entry (key : String) {v w : AnyValue} {xs ys : List KeyValue} : AnyValue.Reordered v w →
      KeyValue.Reordered xs ys → KeyValue.Reordered (.entry key v :: xs) (.entry key w :: ys)
  /-- What stands behind the entries that change places may have their keys again. -/
  | perm {xs ys : List KeyValue} (rest : List KeyValue) : xs.Perm ys → KeyValue.KeysDiffer xs →
      KeyValue.Reordered (xs ++ rest) (ys ++ rest)
  | trans {xs ys zs : List KeyValue} : KeyValue.Reordered xs ys → KeyValue.Reordered ys zs →
      KeyValue.Reordered xs zs

end

/-- Entries that change places keep the first value of each key. -/
theorem KeyValue.lookup_toPairs_of_perm {xs ys : List KeyValue} (h : xs.Perm ys)
    (hkeys : KeyValue.KeysDiffer xs) (rest : List KeyValue) (key : String) :
    (KeyValue.toPairs (xs ++ rest)).lookup key = (KeyValue.toPairs (ys ++ rest)).lookup key := by
  have hpairs : (KeyValue.toPairs xs).Perm (KeyValue.toPairs ys) := by
    rw [toPairs_eq_filterMap, toPairs_eq_filterMap]
    exact h.filterMap _
  have happend (zs : List KeyValue) :
      KeyValue.toPairs (zs ++ rest) = KeyValue.toPairs zs ++ KeyValue.toPairs rest := by
    rw [toPairs_eq_filterMap, toPairs_eq_filterMap, toPairs_eq_filterMap, List.filterMap_append]
  rw [happend, happend, List.lookup_append, List.lookup_append,
    Attributes.lookup_eq_of_perm hpairs hkeys.nodup]

mutual

/-- **Values in another order have the same canonical form.** -/
theorem AnyValue.Reordered.toValue?_eq : ∀ {v w : AnyValue}, AnyValue.Reordered v w →
    v.toValue? = w.toValue?
  | _, _, .refl _ => rfl
  | _, _, .array h => by rw [AnyValue.toValue?, AnyValue.toValue?, h.toItems_eq]
  | _, _, .keyValues h => by
    rw [AnyValue.toValue?, AnyValue.toValue?, Attributes.ofPairs_eq_ofPairs h.lookup_toPairs]

theorem AnyValue.ItemsReordered.toItems_eq : ∀ {vs ws : List AnyValue},
    AnyValue.ItemsReordered vs ws → AnyValue.toItems vs = AnyValue.toItems ws
  | _, _, .nil => rfl
  | _, _, .cons hv hvs => by rw [AnyValue.toItems, AnyValue.toItems, hv.toValue?_eq, hvs.toItems_eq]

/-- Entries in another order have the same first value under every key. -/
theorem KeyValue.Reordered.lookup_toPairs : ∀ {xs ys : List KeyValue}, KeyValue.Reordered xs ys →
    ∀ key, (KeyValue.toPairs xs).lookup key = (KeyValue.toPairs ys).lookup key
  | _, _, .nil, _ => rfl
  | _, _, .bare _ h, key => by
    rw [KeyValue.toPairs, KeyValue.toPairs]
    exact h.lookup_toPairs key
  | _, _, .entry _ (w := w) hv h, key => by
    rw [KeyValue.toPairs, KeyValue.toPairs, hv.toValue?_eq]
    cases w.toValue? with
    | none => exact h.lookup_toPairs key
    | some value =>
      dsimp only
      rw [List.lookup_cons, List.lookup_cons, h.lookup_toPairs key]
  | _, _, .perm rest h hkeys, key => KeyValue.lookup_toPairs_of_perm h hkeys rest key
  | _, _, .trans h h', key => (h.lookup_toPairs key).trans (h'.lookup_toPairs key)

end

theorem KeyValue.Reordered.toAttributes_eq {xs ys : List KeyValue} (h : KeyValue.Reordered xs ys) :
    KeyValue.toAttributes xs = KeyValue.toAttributes ys :=
  Attributes.ofPairs_eq_ofPairs h.lookup_toPairs

/-! ### Main statement -/

/-- **Ids do not depend on the order of attributes.**  Attributes in another order, at any depth and
as long as entries of one key that have content keep their places, have the same canonical form,
and so the same digest and text, and the same id of the resource, scope or stream that is made from
them.  The same is true of any value.  In general a map holds under each key the canonical form of
the first entry that has the key and content: an entry without content is passed over, and every
entry with content has a canonical form.  An array holds the canonical forms of those items that
have content, in their order. -/
theorem conversion_of_reordered :
    (∀ xs ys, KeyValue.Reordered xs ys →
      KeyValue.toAttributes xs = KeyValue.toAttributes ys ∧
      (KeyValue.toAttributes xs).digest = (KeyValue.toAttributes ys).digest ∧
      (KeyValue.toAttributes xs).toDoc.render = (KeyValue.toAttributes ys).toDoc.render ∧
      (KeyValue.toAttributes xs).streamId = (KeyValue.toAttributes ys).streamId ∧
      (∀ dropped schema, (resourceRecord (some ⟨xs, dropped⟩) schema).id =
        (resourceRecord (some ⟨ys, dropped⟩) schema).id) ∧
      ∀ name version dropped schema, (scopeRecord (some ⟨name, version, xs, dropped⟩) schema).id =
        (scopeRecord (some ⟨name, version, ys, dropped⟩) schema).id) ∧
    (∀ v w, AnyValue.Reordered v w →
      v.toValue? = w.toValue? ∧ v.toValue?.map Value.digest = w.toValue?.map Value.digest ∧
      v.toValue?.map (fun value => value.toDoc.render) =
        w.toValue?.map fun value => value.toDoc.render) ∧
    (∀ entries key, (KeyValue.toAttributes entries).get? key =
      (entries.find? fun e => e.key == key && e.hasContent).bind KeyValue.toValue?) ∧
    (∀ e : KeyValue, e.toValue?.isSome = e.hasContent) ∧
    (∀ vs, (AnyValue.array vs).toValue? = some (.array (vs.filterMap AnyValue.toValue?))) ∧
    ∀ v : AnyValue, v.toValue? = none ↔ v = .empty := by
  refine ⟨fun xs ys h => ?_, fun v w h => ?_, KeyValue.get?_toAttributes, KeyValue.isSome_toValue?,
    fun vs => ?_, fun v => ?_⟩
  · have hsame := h.toAttributes_eq
    refine ⟨hsame, ?_, ?_, ?_, fun dropped schema => ?_, fun name version dropped schema => ?_⟩
    · rw [hsame]
    · rw [hsame]
    · rw [hsame]
    · rw [resourceRecord, resourceRecord, hsame]
    · rw [scopeRecord, scopeRecord, hsame]
  · have hsame := h.toValue?_eq
    exact ⟨hsame, by rw [hsame], by rw [hsame]⟩
  · rw [AnyValue.toValue?, AnyValue.toItems_eq_filterMap]
  · cases v <;> simp [AnyValue.toValue?]

/-- The entries of a list inside an array change places, and so do the entries around it, one of
which has a key that comes again later, and one a key that is also there without a value. -/
theorem conversion_of_reordered_twice :
    let inner : List KeyValue := [.entry "x" (.int 1), .entry "y" (.string "two")]
    let xs : List KeyValue := [.entry "b" (.array [.keyValues inner, .empty]), .bare "a",
      .entry "a" (.bool true), .entry "b" (.bool false)]
    let ys : List KeyValue := [.entry "a" (.bool true), .bare "a",
      .entry "b" (.array [.keyValues inner.reverse, .empty]), .entry "b" (.bool false)]
    KeyValue.Reordered xs ys ∧ (KeyValue.toAttributes xs).streamId =
      (KeyValue.toAttributes ys).streamId ∧
      (KeyValue.toAttributes xs).get? "a" = some (.bool true) := by
  intro inner xs ys
  have hinner : KeyValue.Reordered inner inner.reverse := by
    have hkeys : KeyValue.KeysDiffer inner := by simp [KeyValue.KeysDiffer, inner, KeyValue.key]
    exact .perm [] (List.reverse_perm inner).symm hkeys
  -- the entries of the inner list first, and then the first three of the list itself
  have hitems : AnyValue.ItemsReordered [.keyValues inner, .empty]
      [.keyValues inner.reverse, .empty] :=
    .cons (.keyValues hinner) (.cons (.refl .empty) .nil)
  have hfirst : KeyValue.Reordered xs
      (.entry "b" (.array [.keyValues inner.reverse, .empty]) :: xs.tail) :=
    .entry "b" (.array hitems) (.perm xs.tail .nil List.Pairwise.nil)
  have hreordered : KeyValue.Reordered xs ys := by
    have hkeys : KeyValue.KeysDiffer [.entry "b" (.array [.keyValues inner.reverse, .empty]),
        .bare "a", .entry "a" (.bool true)] := by
      simp [KeyValue.KeysDiffer, KeyValue.key, KeyValue.hasContent, KeyValue.value?]
    exact hfirst.trans (.perm [.entry "b" (.bool false)] (List.reverse_perm _).symm hkeys)
  have hget := conversion_of_reordered.2.2.1 xs "a"
  refine ⟨hreordered, (conversion_of_reordered.1 xs ys hreordered).2.2.2.1, hget.trans ?_⟩
  simp [xs, KeyValue.key, KeyValue.hasContent, KeyValue.value?, KeyValue.toValue?,
    AnyValue.hasContent, AnyValue.toValue?]

end Telemetry.Otlp
