import Mathlib.Data.List.Induction
import Telemetry.Proofs.Value.Lookup
import Telemetry.Value.Digest
import Telemetry.Value.Json

/-!
# Attribute maps are finite maps

An attribute map is made from pairs and then changed by putting values at keys.  What a key holds
afterwards is what was put there last, else the first of the pairs (`get?_afterInserts`), and since
the keys ascend, a map that holds the same is the same list of entries, whatever was done to make it
(`finite_map`).  Putting a value at a key exchanges the value of the one entry with that key, or
puts one entry between two others (`Ascending.exists_insert_of_get?_eq_some` and
`Ascending.exists_insert_of_get?_eq_none`).

Binary search looks at entries by their positions.  `searchChecked` is the same search for a list
about which nothing is known: it gives up at a position that does not exist.  It never does
(`searchChecked_eq`), and the position that it ends at can be used (`inRange_search`), also where
the keys do not ascend.
-/

namespace Telemetry.Attributes

/-! ### Positions -/

/-- Binary search that gives up where there is no entry at a position that it looks at. -/
def searchChecked (m : Attributes) (key : String) (low high : Nat) : Option Position :=
  if low < high then
    let middle := low + (high - low) / 2
    match m[middle]? with
    | none => none
    | some entry =>
      match Text.compareBytes entry.1 key with
      | .eq => some (.found middle)
      | .lt => searchChecked m key (middle + 1) high
      | .gt => searchChecked m key low middle
  else some (.missing low)
termination_by high - low

/-- **Binary search only looks at entries that exist.** -/
theorem searchChecked_eq (m : Attributes) (key : String) (low high : Nat)
    (bound : high ≤ m.length) :
    searchChecked m key low high = some (searchBetween m key low high bound) := by
  -- at each step the entry that is asked for is the one that the search compares with
  have hentry (low high : Nat) (inside : low + (high - low) / 2 < m.length) :
      m[low + (high - low) / 2]? = some (m.get ⟨low + (high - low) / 2, inside⟩) :=
    List.getElem?_eq_getElem inside
  fun_induction searchBetween m key low high bound with
  | case1 low high bound hlt middle inside heq =>
    dsimp only [middle] at heq
    rw [searchChecked, if_pos hlt]
    simp only [hentry low high inside, heq]
    rfl
  | case2 low high bound hlt middle inside hless ih =>
    dsimp only [middle] at hless
    rw [searchChecked, if_pos hlt]
    simp only [hentry low high inside, hless]
    exact ih
  | case3 low high bound hlt middle inside hgreater ih =>
    dsimp only [middle] at hgreater
    rw [searchChecked, if_pos hlt]
    simp only [hentry low high inside, hgreater]
    exact ih
  | case4 low high bound hlt => rw [searchChecked, if_neg hlt]

/-- There is an entry at the position, or one can be put there. -/
def Position.InRange (m : Attributes) : Position → Prop
  | .found i => i < m.length
  | .missing i => i ≤ m.length

theorem inRange_searchBetween (m : Attributes) (key : String) (low high : Nat)
    (bound : high ≤ m.length) (hlow : low ≤ m.length) :
    (searchBetween m key low high bound).InRange m := by
  fun_induction searchBetween m key low high bound with
  | case1 low high bound hlt middle inside heq => exact inside
  | case2 low high bound hlt middle inside hless ih => exact ih inside
  | case3 low high bound hlt middle inside hgreater ih => exact ih hlow
  | case4 low high bound hlt => exact hlow

/-- Binary search ends at a position that can be used. -/
theorem inRange_search (m : Attributes) (key : String) : (m.search key).InRange m :=
  inRange_searchBetween m key 0 m.length (Nat.le_refl _) (Nat.zero_le _)

/-! ### What putting a value at a key changes -/

/-- **A value at a key that the map has takes the place of the old one**, and nothing else
changes. -/
theorem Ascending.exists_insert_of_get?_eq_some {m : Attributes} (h : m.Ascending) {key : String}
    {old : Value} (hold : m.get? key = some old) (value : Value) :
    ∃ front back, m = front ++ (key, old) :: back ∧
      m.insert key value = front ++ (key, value) :: back := by
  have hfits := fits_search h key
  unfold get? at hold
  unfold Attributes.insert
  cases hsearch : m.search key with
  | missing i =>
    rw [hsearch] at hold
    cases hold
  | found i =>
    rw [hsearch] at hfits hold
    obtain ⟨found, hfound⟩ := hfits
    simp only [hfound, Option.map_some, Option.some.injEq] at hold
    subst hold
    obtain ⟨hi, hentry⟩ := List.getElem?_eq_some_iff.mp hfound
    refine ⟨m.take i, m.drop (i + 1), ?_, ?_⟩
    · rw [← hentry, ← List.drop_eq_getElem_cons hi, List.take_append_drop]
    · dsimp only
      rw [List.modify_eq_take_cons_drop hi, hentry]

/-- **A value at a key that the map does not have is one more entry**, and nothing else changes. -/
theorem Ascending.exists_insert_of_get?_eq_none {m : Attributes} (h : m.Ascending) {key : String}
    (hnone : m.get? key = none) (value : Value) :
    ∃ front back, m = front ++ back ∧ m.insert key value = front ++ (key, value) :: back := by
  have hfits := fits_search h key
  unfold get? at hnone
  unfold Attributes.insert
  cases hsearch : m.search key with
  | found i =>
    rw [hsearch] at hfits hnone
    obtain ⟨found, hfound⟩ := hfits
    simp [hfound] at hnone
  | missing i =>
    rw [hsearch] at hfits
    refine ⟨m.take i, m.drop i, (List.take_append_drop i m).symm, ?_⟩
    obtain ⟨front, back, rfl, rfl, hput⟩ :=
      List.exists_of_modifyTailIdx (List.cons (key, value)) hfits.1
    dsimp only
    rw [List.take_left, List.drop_left]
    exact hput

/-- What a key holds after a value was put at one. -/
theorem Ascending.get?_insert {m : Attributes} (h : m.Ascending) (key : String) (value : Value)
    (k : String) : (m.insert key value).get? k = if k = key then some value else m.get? k := by
  have hinsert := h.insert key value
  rw [hinsert.get?_eq]
  by_cases hk : k = key
  · subst hk
    rw [if_pos rfl]
    have hmem : (k, value) ∈ m.insert k value := by
      cases hget : m.get? k with
      | some old =>
        obtain ⟨front, back, -, hput⟩ := h.exists_insert_of_get?_eq_some hget value
        simp [hput]
      | none =>
        obtain ⟨front, back, -, hput⟩ := h.exists_insert_of_get?_eq_none hget value
        simp [hput]
    exact (lookup_eq_some_iff_mem (Table.nodup_of_ascending hinsert)).mpr hmem
  · -- the entries with other keys are the same as before
    rw [if_neg hk, h.get?_eq]
    have hskip (front back : Attributes) (v : Value) :
        (front ++ (key, v) :: back).lookup k = (front ++ back).lookup k := by
      rw [List.lookup_append, List.lookup_append, List.lookup_cons, beq_eq_false_iff_ne.mpr hk]
    cases hget : m.get? key with
    | some old =>
      obtain ⟨front, back, hm, hput⟩ := h.exists_insert_of_get?_eq_some hget value
      rw [hput, hm, hskip, hskip]
    | none =>
      obtain ⟨front, back, hm, hput⟩ := h.exists_insert_of_get?_eq_none hget value
      rw [hput, hm, hskip]

/-! ### Any number of changes -/

/-- The map of some pairs after values were put at keys one after the other. -/
def afterInserts (pairs inserts : List (String × Value)) : Attributes :=
  inserts.foldl (fun m entry => m.insert entry.1 entry.2) (ofPairs pairs)

theorem afterInserts_concat (pairs inserts : List (String × Value)) (entry : String × Value) :
    afterInserts pairs (inserts ++ [entry]) =
      (afterInserts pairs inserts).insert entry.1 entry.2 := by
  rw [afterInserts, List.foldl_append]
  rfl

theorem built_afterInserts (pairs inserts : List (String × Value)) :
    (afterInserts pairs inserts).Built := by
  induction inserts using List.reverseRecOn with
  | nil => exact .ofPairs pairs
  | append_singleton inserts entry ih =>
    rw [afterInserts_concat]
    exact .insert entry.1 entry.2 ih

/-- **A key holds what was put there last**, or else the value of its first pair. -/
theorem get?_afterInserts (pairs inserts : List (String × Value)) (key : String) :
    (afterInserts pairs inserts).get? key =
      (inserts.reverse.lookup key).or (pairs.lookup key) := by
  induction inserts using List.reverseRecOn with
  | nil => exact get?_ofPairs pairs key
  | append_singleton inserts entry ih =>
    obtain ⟨k, value⟩ := entry
    rw [afterInserts_concat, (built_afterInserts pairs inserts).ascending.get?_insert, ih,
      List.reverse_concat, List.lookup_cons]
    by_cases hk : key = k
    · rw [if_pos hk, beq_iff_eq.mpr hk, Option.some_or]
    · rw [if_neg hk, beq_eq_false_iff_ne.mpr hk]

/-- **An attribute map is a finite map in one form only.**  For a map that was made from pairs and
changed by putting values at keys: its keys ascend; a key holds what was put there last, or else the
value of its first pair; putting a value at a key exchanges one value or adds one entry, and leaves
all others as they are; maps that hold the same are the same entries, and so have the same digest
and the same JSON; and binary search looks at no position without an entry, and ends at a position
that can be used. -/
theorem finite_map (pairs inserts : List (String × Value)) :
    (afterInserts pairs inserts).Ascending ∧
    (∀ key, (afterInserts pairs inserts).get? key =
      (inserts.reverse.lookup key).or (pairs.lookup key)) ∧
    (∀ key old value, (afterInserts pairs inserts).get? key = some old →
      ∃ front back, afterInserts pairs inserts = front ++ (key, old) :: back ∧
        (afterInserts pairs inserts).insert key value = front ++ (key, value) :: back) ∧
    (∀ key value, (afterInserts pairs inserts).get? key = none →
      ∃ front back, afterInserts pairs inserts = front ++ back ∧
        (afterInserts pairs inserts).insert key value = front ++ (key, value) :: back) ∧
    (∀ others changes,
      (∀ key, (afterInserts pairs inserts).get? key = (afterInserts others changes).get? key) →
        afterInserts pairs inserts = afterInserts others changes ∧
        digest (afterInserts pairs inserts) = digest (afterInserts others changes) ∧
        (toDoc (afterInserts pairs inserts)).render =
          (toDoc (afterInserts others changes)).render) ∧
    ∀ key,
      searchChecked (afterInserts pairs inserts) key 0 (afterInserts pairs inserts).length =
          some (search (afterInserts pairs inserts) key) ∧
        (search (afterInserts pairs inserts) key).InRange (afterInserts pairs inserts) := by
  have hascending := (built_afterInserts pairs inserts).ascending
  refine ⟨hascending, get?_afterInserts pairs inserts,
    fun key old value hold => hascending.exists_insert_of_get?_eq_some hold value,
    fun key value hnone => hascending.exists_insert_of_get?_eq_none hnone value,
    fun others changes hsame => ?_, fun key => ⟨?_, inRange_search _ key⟩⟩
  · have hothers := (built_afterInserts others changes).ascending
    have hmaps : afterInserts pairs inserts = afterInserts others changes := by
      refine hascending.ext hothers fun key => ?_
      rw [← hascending.get?_eq, ← hothers.get?_eq, hsame]
    rw [hmaps]
    exact ⟨rfl, rfl, rfl⟩
  · exact searchChecked_eq _ key 0 _ (Nat.le_refl _)

end Telemetry.Attributes
