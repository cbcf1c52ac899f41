import Telemetry.Proofs.Table
import Telemetry.Proofs.Value.Attributes

/-!
# What attribute maps hold

Binary search finds the value of a key wherever the keys ascend (`Attributes.Ascending.get?_eq`).
A map of pairs holds under each key the value of the first pair with that key
(`Attributes.get?_ofPairs`): the sort keeps pairs with one key in their order, and of those only the
first one stays.  So lists of pairs with the same first values make the same map
(`Attributes.ofPairs_eq_ofPairs`).
-/

namespace Telemetry.Attributes

/-! ### Finding a key -/

theorem lookup_eq_find? (pairs : List (String × Value)) (key : String) :
    pairs.lookup key = (pairs.find? fun pair => pair.1 == key).map Prod.snd := by
  induction pairs with
  | nil => rfl
  | cons pair pairs ih =>
    obtain ⟨k, value⟩ := pair
    rw [List.lookup_cons, List.find?_cons, BEq.comm]
    cases h : k == key with
    | true => simp
    | false => simp [ih]

/-- **Binary search finds the value of a key.** -/
theorem Ascending.get?_eq {m : Attributes} (h : m.Ascending) (key : String) :
    m.get? key = m.lookup key := by
  have hfits := fits_search h key
  unfold get?
  cases hsearch : m.search key with
  | found i =>
    rw [hsearch] at hfits
    obtain ⟨value, hvalue⟩ := hfits
    have hmem : (key, value) ∈ m := List.mem_of_getElem? hvalue
    have hlookup : Table.lookup Text.compareBytes key m = some value := Table.lookup_of_mem h hmem
    rw [Table.lookup_eq_lookup] at hlookup
    simp [hvalue, hlookup]
  | missing i =>
    rw [hsearch] at hfits
    obtain ⟨-, hbefore, hafter⟩ := hfits
    -- the key compares unequal to what stands before the position and to what stands behind it
    have hother : ∀ entry ∈ m, key ≠ entry.1 := by
      intro entry hentry heq
      have hself : Text.compareBytes key key = .eq := Std.ReflCmp.compare_self
      rw [← List.take_append_drop i m] at hentry
      rcases List.mem_append.mp hentry with hfront | hback
      · have hlt := hbefore entry hfront
        rw [← heq, hself] at hlt
        cases hlt
      · have hlt := hafter entry hback
        rw [← heq, hself] at hlt
        cases hlt
    symm
    rw [List.lookup_eq_none_iff]
    intro entry hentry
    simpa using hother entry hentry

/-- **A map is determined by what its keys hold.** -/
theorem Ascending.ext {m n : Attributes} (hm : m.Ascending) (hn : n.Ascending)
    (h : ∀ key, m.lookup key = n.lookup key) : m = n := by
  refine Table.entries_eq_of_lookup_eq hm hn fun key => ?_
  rw [Table.lookup_eq_lookup, Table.lookup_eq_lookup, h]

/-! ### Maps of pairs -/

/-- Behind a key, no other key loses its first entry with the repeats. -/
theorem lookup_dropRepeatsAfter {before key : String} (h : key ≠ before) (m : Attributes) :
    (dropRepeatsAfter before m).lookup key = m.lookup key := by
  induction m generalizing before with
  | nil => rfl
  | cons entry m ih =>
    obtain ⟨k, value⟩ := entry
    unfold dropRepeatsAfter
    dsimp only
    split
    · rename_i hrepeat
      have hk : key ≠ k := hrepeat ▸ h
      rw [ih h, List.lookup_cons, beq_eq_false_iff_ne.mpr hk]
    · by_cases hk : key = k
      · simp [hk]
      · rw [List.lookup_cons, List.lookup_cons, beq_eq_false_iff_ne.mpr hk]
        exact ih hk

theorem lookup_dropRepeats (m : Attributes) (key : String) :
    (dropRepeats m).lookup key = m.lookup key := by
  cases m with
  | nil => rfl
  | cons entry m =>
    obtain ⟨k, value⟩ := entry
    unfold dropRepeats
    by_cases hk : key = k
    · simp [hk]
    · rw [List.lookup_cons, List.lookup_cons, beq_eq_false_iff_ne.mpr hk]
      exact lookup_dropRepeatsAfter hk m

/-- The sort by keys keeps the pairs of each key in their order. -/
theorem filter_mergeSort (pairs : List (String × Value)) (key : String) :
    (pairs.mergeSort fun a b => (Text.compareBytes a.1 b.1).isLE).filter (fun pair => pair.1 == key) =
      pairs.filter fun pair => pair.1 == key := by
  have hsorted : (pairs.filter fun pair => pair.1 == key).Pairwise
      fun a b => (Text.compareBytes a.1 b.1).isLE := by
    rw [List.pairwise_filter]
    refine List.pairwise_of_forall fun a b ha hb => ?_
    have hself : Text.compareBytes key key = .eq := Std.ReflCmp.compare_self
    rw [beq_iff_eq.mp ha, beq_iff_eq.mp hb, hself]
    rfl
  -- a stable sort keeps what is in order, and it neither adds nor loses pairs
  have hsublist := List.sublist_mergeSort isLE_key_trans isLE_key_total hsorted List.filter_sublist
  have hfilter := hsublist.filter fun pair => pair.1 == key
  simp only [List.filter_filter, Bool.and_self] at hfilter
  have hperm := (List.mergeSort_perm pairs fun a b => (Text.compareBytes a.1 b.1).isLE).filter
    fun pair => pair.1 == key
  exact (hfilter.eq_of_length hperm.length_eq.symm).symm

/-- **A map of pairs holds the first value of each key.** -/
theorem get?_ofPairs (pairs : List (String × Value)) (key : String) :
    (ofPairs pairs).get? key = pairs.lookup key := by
  rw [(ascending_ofPairs pairs).get?_eq, ofPairs, lookup_dropRepeats, lookup_eq_find?,
    lookup_eq_find?, ← List.head?_filter, ← List.head?_filter, filter_mergeSort]

/-- A map whose keys ascend is the map of its own pairs. -/
theorem Ascending.ofPairs_eq {m : Attributes} (h : m.Ascending) : ofPairs m = m := by
  refine (ascending_ofPairs m).ext h fun key => ?_
  rw [← (ascending_ofPairs m).get?_eq, get?_ofPairs]

/-- Pairs with the same first values make the same map. -/
theorem ofPairs_eq_ofPairs {pairs others : List (String × Value)}
    (h : ∀ key, pairs.lookup key = others.lookup key) : ofPairs pairs = ofPairs others := by
  refine (ascending_ofPairs pairs).ext (ascending_ofPairs others) fun key => ?_
  rw [← (ascending_ofPairs pairs).get?_eq, ← (ascending_ofPairs others).get?_eq, get?_ofPairs,
    get?_ofPairs, h]

/-- Where no key repeats, a key has the value of its only pair. -/
theorem lookup_eq_some_iff_mem {pairs : List (String × Value)} (h : (pairs.map Prod.fst).Nodup)
    {key : String} {value : Value} : pairs.lookup key = some value ↔ (key, value) ∈ pairs := by
  induction pairs with
  | nil => simp
  | cons pair pairs ih =>
    obtain ⟨k, v⟩ := pair
    rw [List.map_cons, List.nodup_cons] at h
    rw [List.lookup_cons, List.mem_cons, Prod.mk.injEq]
    by_cases hk : key = k
    · subst hk
      have hnot : (key, value) ∉ pairs := fun hmem =>
        h.1 (List.mem_map.mpr ⟨_, hmem, rfl⟩)
      simp [hnot, eq_comm]
    · simp [beq_eq_false_iff_ne.mpr hk, hk, ih h.2]

/-- Where no key repeats, the order of pairs does not matter. -/
theorem lookup_eq_of_perm {pairs others : List (String × Value)} (h : pairs.Perm others)
    (hkeys : (pairs.map Prod.fst).Nodup) (key : String) : pairs.lookup key = others.lookup key := by
  have hothers : (others.map Prod.fst).Nodup := (h.map Prod.fst).nodup_iff.mp hkeys
  refine Option.ext fun value => ?_
  rw [lookup_eq_some_iff_mem hkeys, lookup_eq_some_iff_mem hothers, h.mem_iff]

end Telemetry.Attributes
