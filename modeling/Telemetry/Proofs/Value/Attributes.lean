import Mathlib.Data.List.Basic
import Telemetry.Otlp.Conversion

/-!
# Attribute maps ascend

However an attribute map was made, from pairs in any order or by putting values at keys one after
the other, its keys are in strictly ascending byte order (`Attributes.Built.ascending`).  For pairs
this is the sort and the removal of repeats; for a single value it is what binary search says about
the place that it ends at (`fits_searchBetween`).
-/

namespace Telemetry

namespace Attributes

/-- The map was made from pairs in any order, and by putting values at keys since. -/
inductive Built : Attributes → Prop where
  | ofPairs (pairs : List (String × Value)) : Built (ofPairs pairs)
  | insert {m : Attributes} (key : String) (value : Value) : Built m → Built (m.insert key value)

/-! ### Maps of pairs -/

theorem mem_dropRepeatsAfter {key : String} {m : Attributes} {entry : String × Value}
    (h : entry ∈ dropRepeatsAfter key m) : entry ∈ m := by
  induction m generalizing key with
  | nil => cases h
  | cons first rest ih =>
    unfold dropRepeatsAfter at h
    split at h
    · exact List.mem_cons_of_mem _ (ih h)
    · rcases List.mem_cons.mp h with rfl | h
      · exact List.mem_cons_self
      · exact List.mem_cons_of_mem _ (ih h)

/-- Of entries in order, those that are no repeats ascend strictly from the key before them on. -/
theorem ascending_dropRepeatsAfter {key : String} {m : Attributes}
    (h : (key :: m.map Prod.fst).Pairwise fun a b => (Text.compareBytes a b).isLE) :
    (key :: (dropRepeatsAfter key m).map Prod.fst).Pairwise
      fun a b => Text.compareBytes a b = .lt := by
  induction m generalizing key with
  | nil => simp [dropRepeatsAfter]
  | cons first rest ih =>
    rw [List.map_cons, List.pairwise_cons] at h
    obtain ⟨hkey, hrest⟩ := h
    unfold dropRepeatsAfter
    split
    · rename_i hsame
      rw [hsame] at hrest
      exact ih hrest
    · rename_i hother
      have hlt : Text.compareBytes key first.1 = .lt := by
        have hle := hkey first.1 List.mem_cons_self
        cases hcmp : Text.compareBytes key first.1 with
        | lt => rfl
        | eq => exact absurd (Std.LawfulEqCmp.eq_of_compare hcmp).symm hother
        | gt => rw [hcmp] at hle; cases hle
      have hascending := ih hrest
      rw [List.map_cons, List.pairwise_cons]
      refine ⟨fun k hk => ?_, hascending⟩
      rcases List.mem_cons.mp hk with rfl | hk
      · exact hlt
      · exact Std.TransCmp.lt_trans hlt ((List.pairwise_cons.mp hascending).1 k hk)

/-- The order of pairs by their keys is transitive. -/
theorem isLE_key_trans (a b c : String × Value) (hab : (Text.compareBytes a.1 b.1).isLE = true)
    (hbc : (Text.compareBytes b.1 c.1).isLE = true) : (Text.compareBytes a.1 c.1).isLE = true :=
  @Std.TransCmp.isLE_trans _ Text.compareBytes _ _ _ _ hab hbc

/-- The order of pairs by their keys is total. -/
theorem isLE_key_total (a b : String × Value) :
    ((Text.compareBytes a.1 b.1).isLE || (Text.compareBytes b.1 a.1).isLE) = true := by
  rw [@Std.OrientedCmp.eq_swap _ Text.compareBytes _ b.1]
  cases Text.compareBytes a.1 b.1 <;> rfl

/-- **A map of pairs ascends**, whatever the order of the pairs and however often keys repeat. -/
theorem ascending_ofPairs (pairs : List (String × Value)) : Ascending (ofPairs pairs) := by
  have hsorted : (pairs.mergeSort fun a b => (Text.compareBytes a.1 b.1).isLE).Pairwise
      fun a b => (Text.compareBytes a.1 b.1).isLE :=
    List.pairwise_mergeSort isLE_key_trans isLE_key_total pairs
  unfold Ascending ofPairs
  generalize pairs.mergeSort _ = entries at hsorted
  cases entries with
  | nil => exact List.Pairwise.nil
  | cons entry rest =>
    apply ascending_dropRepeatsAfter
    rw [← List.map_cons]
    exact List.pairwise_map.mpr hsorted

theorem mem_ofPairs {pairs : List (String × Value)} {entry : String × Value}
    (h : entry ∈ ofPairs pairs) : entry ∈ pairs := by
  unfold ofPairs at h
  have hsorted : entry ∈ pairs.mergeSort fun a b => (Text.compareBytes a.1 b.1).isLE := by
    generalize pairs.mergeSort _ = entries at h ⊢
    cases entries with
    | nil => cases h
    | cons first rest =>
      rcases List.mem_cons.mp h with rfl | h
      · exact List.mem_cons_self
      · exact List.mem_cons_of_mem _ (mem_dropRepeatsAfter h)
  exact List.mem_mergeSort.mp hsorted

/-! ### Binary search -/

/-- The key is at the position, or the position is between the smaller keys and the greater ones. -/
def Position.Fits (m : Attributes) (key : String) : Position → Prop
  | .found i => ∃ value, m[i]? = some (key, value)
  | .missing i => i ≤ m.length ∧ (∀ entry ∈ m.take i, Text.compareBytes entry.1 key = .lt) ∧
    ∀ entry ∈ m.drop i, Text.compareBytes key entry.1 = .lt

/-- What stands before a position has smaller keys than what stands from there on. -/
theorem Ascending.lt_of_mem_take_of_mem_drop {m : Attributes} (h : m.Ascending) {i : Nat}
    {a b : String × Value} (ha : a ∈ m.take i) (hb : b ∈ m.drop i) :
    Text.compareBytes a.1 b.1 = .lt := by
  have hall : (m.take i ++ m.drop i).Pairwise fun a b => Text.compareBytes a.1 b.1 = .lt := by
    rw [List.take_append_drop]
    exact List.pairwise_map.mp h
  exact (List.pairwise_append.mp hall).2.2 a ha b hb

/-- Binary search ends where the key fits. -/
theorem fits_searchBetween {m : Attributes} (h : m.Ascending) (key : String) (low high : Nat)
    (bound : high ≤ m.length) (hlow : low ≤ high)
    (hbefore : ∀ entry ∈ m.take low, Text.compareBytes entry.1 key = .lt)
    (hafter : ∀ entry ∈ m.drop high, Text.compareBytes key entry.1 = .lt) :
    (searchBetween m key low high bound).Fits m key := by
  fun_induction searchBetween m key low high bound with
  | case1 low high bound hlt middle inside heq =>
    refine ⟨(m.get ⟨middle, inside⟩).2, ?_⟩
    rw [List.getElem?_eq_getElem inside, ← Std.LawfulEqCmp.eq_of_compare heq]
    rfl
  | case2 low high bound hlt middle inside hless ih =>
    refine ih (by omega) (fun entry hentry => ?_) hafter
    rw [List.take_succ_eq_append_getElem inside, List.mem_append, List.mem_singleton] at hentry
    rcases hentry with hentry | rfl
    · have hmiddle : m.get ⟨middle, inside⟩ ∈ m.drop middle := by
        rw [List.drop_eq_getElem_cons inside]
        exact List.mem_cons_self
      exact Std.TransCmp.lt_trans (h.lt_of_mem_take_of_mem_drop hentry hmiddle) hless
    · exact hless
  | case3 low high bound hlt middle inside hgreater ih =>
    refine ih (by omega) hbefore fun entry hentry => ?_
    have hkey := Std.OrientedCmp.lt_of_gt hgreater
    rw [List.drop_eq_getElem_cons inside] at hentry
    rcases List.mem_cons.mp hentry with rfl | hentry
    · exact hkey
    · have hmiddle : m.get ⟨middle, inside⟩ ∈ m.take (middle + 1) := by
        rw [List.take_succ_eq_append_getElem inside]
        exact List.mem_append_right _ List.mem_cons_self
      exact Std.TransCmp.lt_trans hkey (h.lt_of_mem_take_of_mem_drop hmiddle hentry)
  | case4 low high bound hlt =>
    have hends : low = high := by omega
    exact ⟨by omega, hbefore, hends ▸ hafter⟩

theorem fits_search {m : Attributes} (h : m.Ascending) (key : String) :
    (m.search key).Fits m key :=
  fits_searchBetween h key 0 m.length (Nat.le_refl _) (Nat.zero_le _) (by simp) (by simp)

/-! ### Putting a value at a key -/

/-- Putting a value at a key keeps the keys ascending. -/
theorem Ascending.insert {m : Attributes} (h : m.Ascending) (key : String) (value : Value) :
    (m.insert key value).Ascending := by
  have hfits := fits_search h key
  unfold Attributes.insert
  cases hsearch : m.search key with
  | found i =>
    have hkeys : (m.modify i fun entry => (entry.1, value)).map Prod.fst = m.map Prod.fst := by
      apply List.ext_getElem?
      intro j
      rw [List.getElem?_map, List.getElem?_map, List.getElem?_modify]
      cases m[j]? with
      | none => rfl
      | some entry => by_cases hij : i = j <;> simp [hij]
    dsimp only
    rw [Ascending, hkeys]
    exact h
  | missing i =>
    rw [hsearch] at hfits
    obtain ⟨hi, hbefore, hafter⟩ := hfits
    obtain ⟨front, back, rfl, rfl, hput⟩ :=
      List.exists_of_modifyTailIdx (List.cons (key, value)) hi
    rw [List.take_left] at hbefore
    rw [List.drop_left] at hafter
    obtain ⟨hfront, hback, hacross⟩ := List.pairwise_append.mp (List.pairwise_map.mp h)
    have hinsert : (front ++ back).insertIdx front.length (key, value) =
        front ++ (key, value) :: back := hput
    dsimp only
    rw [hinsert, Ascending, List.pairwise_map, List.pairwise_append]
    refine ⟨hfront, List.pairwise_cons.mpr ⟨hafter, hback⟩, fun a ha b hb => ?_⟩
    rcases List.mem_cons.mp hb with rfl | hb
    · exact hbefore a ha
    · exact hacross a ha b hb

/-- **However a map was made, its keys ascend.** -/
theorem Built.ascending {m : Attributes} (h : m.Built) : m.Ascending := by
  induction h with
  | ofPairs pairs => exact ascending_ofPairs pairs
  | insert key value _ ih => exact ih.insert key value

end Attributes

end Telemetry
