import Mathlib.Algebra.GroupWithZero.Nat
import Telemetry.Table

/-!
# Laws of tables

A table is determined by what its keys hold (`Table.ext`), because its entries ascend.  With a
comparison that is equal only on equal keys, `get?_upsert_self` and `get?_upsert_of_ne` say what
the keys hold after a change, `upsert_comm` when two changes commute, `All.upsert` what all entries
keep, and `sum_upsert` and `size_upsert` what becomes of a sum over the values and of the number of
entries.  `lookup_eq_lookup` and `get?_eq_some_iff` say how a table is looked into, and
`get?_ofPairs` and `mem_keys_ofPairs` what a table of pairs holds.
-/

namespace Telemetry.Table

variable {κ α : Type} {cmp : κ → κ → Ordering} [Std.TransCmp cmp]

/-! ### Ascending keys -/

/-- Keys that ascend do not repeat. -/
theorem nodup_of_ascending {keys : List κ} (h : keys.Pairwise fun a b => cmp a b = .lt) :
    keys.Nodup := by
  refine h.imp fun hlt => ?_
  rintro rfl
  rw [@Std.ReflCmp.compare_self _ cmp] at hlt
  cases hlt

/-- Keys that ascend are told by which ones they are. -/
theorem eq_of_ascending {keys others : List κ} (hkeys : keys.Pairwise fun a b => cmp a b = .lt)
    (hothers : others.Pairwise fun a b => cmp a b = .lt) (h : ∀ key, key ∈ keys ↔ key ∈ others) :
    keys = others := by
  -- neither list repeats a key, so they are permutations of each other
  have hperm : keys.Perm others :=
    (List.perm_ext_iff_of_nodup (nodup_of_ascending hkeys) (nodup_of_ascending hothers)).mpr h
  refine hperm.eq_of_pairwise (fun a b _ _ hab hba => ?_) hkeys hothers
  rw [Std.OrientedCmp.gt_of_lt hab] at hba
  cases hba

/-! ### Extensionality -/

/-- A key before the first entry of an ascending list has no value in it. -/
theorem lookup_cons_eq_none_of_lt {key k : κ} {a : α} {es : List (κ × α)}
    (h : (((k, a) :: es).map Prod.fst).Pairwise (fun a b => cmp a b = .lt)) (hlt : cmp key k = .lt) :
    lookup cmp key ((k, a) :: es) = none := by
  simp only [List.map_cons, List.pairwise_cons] at h
  apply lookup_eq_none_of_lt
  intro x hx
  rcases List.mem_cons.mp hx with rfl | hx
  · exact hlt
  · exact Std.TransCmp.lt_trans hlt (h.1 x hx)

theorem entries_eq_of_lookup_eq [Std.LawfulEqCmp cmp] {es fs : List (κ × α)}
    (hes : (es.map Prod.fst).Pairwise (fun a b => cmp a b = .lt))
    (hfs : (fs.map Prod.fst).Pairwise (fun a b => cmp a b = .lt))
    (h : ∀ k, lookup cmp k es = lookup cmp k fs) : es = fs := by
  induction es generalizing fs with
  | nil =>
    cases fs with
    | nil => rfl
    | cons f fs =>
      have := h f.1
      simp [lookup] at this
  | cons e es ih =>
    obtain ⟨k, a⟩ := e
    have hk : lookup cmp k ((k, a) :: es) = some a := by simp [lookup]
    cases fs with
    | nil =>
      rw [h k] at hk
      cases hk
    | cons f fs =>
      obtain ⟨k', a'⟩ := f
      -- the first keys agree: the smaller one would be missing on the other side
      have hsame : cmp k k' = .eq := by
        cases hcmp : cmp k k' with
        | eq => rfl
        | lt => rw [h k, lookup_cons_eq_none_of_lt hfs hcmp] at hk; cases hk
        | gt =>
          have hk' : lookup cmp k' ((k', a') :: fs) = some a' := by simp [lookup]
          rw [← h k', lookup_cons_eq_none_of_lt hes (Std.OrientedCmp.lt_of_gt hcmp)] at hk'
          cases hk'
      obtain rfl := Std.LawfulEqCmp.eq_of_compare hsame
      have ha : a = a' := by
        rw [h k] at hk
        simpa [lookup] using hk.symm
      rw [List.map_cons, List.pairwise_cons] at hes hfs
      have hrest : es = fs := by
        refine ih hes.2 hfs.2 fun x => ?_
        by_cases hx : cmp x k = .eq
        · obtain rfl := Std.LawfulEqCmp.eq_of_compare hx
          rw [lookup_eq_none_of_lt hes.1, lookup_eq_none_of_lt hfs.1]
        · have := h x
          rwa [lookup, lookup, if_neg hx, if_neg hx] at this
      rw [ha, hrest]

/-- **Tables whose keys hold the same are equal.** -/
theorem ext [Std.LawfulEqCmp cmp] {t u : Table cmp α} (h : ∀ k, t.get? k = u.get? k) : t = u := by
  have := entries_eq_of_lookup_eq t.ascending u.ascending h
  cases t
  cases u
  simp_all

/-! ### What keys hold after a change -/

theorem get?_upsert_self (t : Table cmp α) (key : κ) (f : Option α → α) :
    (t.upsert key f).get? key = some (f (t.get? key)) := by
  rw [get?_upsert, if_pos Std.ReflCmp.compare_self]

theorem get?_upsert_of_ne [Std.LawfulEqCmp cmp] (t : Table cmp α) {key k : κ} (h : k ≠ key)
    (f : Option α → α) : (t.upsert key f).get? k = t.get? k := by
  rw [get?_upsert, if_neg fun heq => h (Std.LawfulEqCmp.eq_of_compare heq)]

theorem get?_insertIfNew_self (t : Table cmp α) (key : κ) (a : α) :
    (t.insertIfNew key a).get? key = some ((t.get? key).getD a) := by
  rw [get?_insertIfNew, if_pos Std.ReflCmp.compare_self]

theorem get?_insertIfNew_of_ne [Std.LawfulEqCmp cmp] (t : Table cmp α) {key k : κ} (h : k ≠ key)
    (a : α) : (t.insertIfNew key a).get? k = t.get? k := by
  rw [get?_insertIfNew, if_neg fun heq => h (Std.LawfulEqCmp.eq_of_compare heq)]

/-- Where a change gives a new entry the feature `b` and keeps the feature of an old one, the
first change of a key decides. -/
theorem map_get?_upsert [Std.LawfulEqCmp cmp] [DecidableEq κ] {β : Type} (t : Table cmp α)
    (key k : κ) {f : Option α → α} {g : α → β} {b : β} (hnew : g (f none) = b)
    (hold : ∀ a, g (f (some a)) = g a) :
    ((t.upsert key f).get? k).map g =
      ((t.get? k).map g).or (if key = k then some b else none) := by
  by_cases hk : key = k
  · subst hk
    rw [get?_upsert_self, if_pos rfl]
    cases t.get? key with
    | none => simp [hnew]
    | some a => simp [hold]
  · rw [get?_upsert_of_ne t (Ne.symm hk), if_neg hk, Option.or_none]

theorem get?_insertIfNew_or [Std.LawfulEqCmp cmp] [DecidableEq κ] (t : Table cmp α) (key k : κ)
    (a : α) :
    (t.insertIfNew key a).get? k = (t.get? k).or (if key = k then some a else none) := by
  by_cases hk : key = k
  · subst hk
    rw [get?_insertIfNew_self, if_pos rfl]
    cases t.get? key <;> rfl
  · rw [get?_insertIfNew_of_ne t (Ne.symm hk), if_neg hk, Option.or_none]

/-- A change that leaves the value of its key leaves the table. -/
theorem upsert_eq_self [Std.LawfulEqCmp cmp] {t : Table cmp α} {key : κ} {f : Option α → α}
    (h : some (f (t.get? key)) = t.get? key) : t.upsert key f = t := by
  apply ext
  intro k
  rw [get?_upsert]
  split
  · rename_i hk
    rw [h, Std.LawfulEqCmp.eq_of_compare hk]
  · rfl

theorem insertIfNew_eq_self [Std.LawfulEqCmp cmp] {t : Table cmp α} {key : κ} {a b : α}
    (h : t.get? key = some b) : t.insertIfNew key a = t :=
  upsert_eq_self (by rw [h])

/-! ### Changes in either order -/

/-- Two changes can be made in either order, if their keys differ or the changes commute on what is
at the key. -/
theorem upsert_comm [Std.LawfulEqCmp cmp] [DecidableEq κ] (t : Table cmp α) {key k : κ}
    {f g : Option α → α} (h : key = k → ∀ old, g (some (f old)) = f (some (g old))) :
    (t.upsert key f).upsert k g = (t.upsert k g).upsert key f := by
  apply ext
  intro x
  by_cases hkeys : key = k
  · subst hkeys
    by_cases hx : x = key
    · rw [hx]
      simp only [get?_upsert_self, h rfl]
    · simp only [get?_upsert_of_ne _ hx]
  · by_cases hx : x = key
    · rw [hx, get?_upsert_of_ne _ hkeys, get?_upsert_self, get?_upsert_self,
        get?_upsert_of_ne _ hkeys]
    · rw [get?_upsert_of_ne _ hx]
      by_cases hxk : x = k
      · rw [hxk, get?_upsert_self, get?_upsert_self, get?_upsert_of_ne _ (Ne.symm hkeys)]
      · simp only [get?_upsert_of_ne _ hxk, get?_upsert_of_ne _ hx]

/-- Two values can be put into a table in either order, unless they are different values for one
key. -/
theorem insertIfNew_comm [Std.LawfulEqCmp cmp] [DecidableEq κ] (t : Table cmp α) {key k : κ}
    {a b : α} (h : key = k → a = b) :
    (t.insertIfNew key a).insertIfNew k b = (t.insertIfNew k b).insertIfNew key a := by
  refine upsert_comm t fun hk old => ?_
  cases old with
  | none => exact h hk
  | some old => rfl

/-! ### What holds of all entries -/

/-- Every key and the value at it have `P`. -/
def All (P : κ → α → Prop) (t : Table cmp α) : Prop :=
  ∀ key a, t.get? key = some a → P key a

omit [Std.TransCmp cmp] in
theorem all_empty (P : κ → α → Prop) : (empty : Table cmp α).All P := by
  intro key a h
  cases h

theorem All.upsert [Std.LawfulEqCmp cmp] {P : κ → α → Prop} {t : Table cmp α} (h : t.All P)
    {key : κ} {f : Option α → α} (hnew : P key (f none))
    (hold : ∀ a, P key a → P key (f (some a))) : (t.upsert key f).All P := by
  intro k a hk
  by_cases hkey : k = key
  · subst hkey
    rw [get?_upsert_self] at hk
    obtain rfl := Option.some.inj hk
    cases hget : t.get? k with
    | none => exact hnew
    | some old => exact hold old (h k old hget)
  · rw [get?_upsert_of_ne t hkey] at hk
    exact h k a hk

theorem All.insertIfNew [Std.LawfulEqCmp cmp] {P : κ → α → Prop} {t : Table cmp α} (h : t.All P)
    {key : κ} {a : α} (ha : P key a) : (t.insertIfNew key a).All P :=
  h.upsert ha fun _ hold => hold

theorem All.foldl_upsert [Std.LawfulEqCmp cmp] {β : Type} {P : κ → α → Prop} {f : β → Option α → α}
    {pairs : List (κ × β)} {t : Table cmp α} (ht : t.All P)
    (h : ∀ pair ∈ pairs, ∀ old, P pair.1 (f pair.2 old)) :
    (pairs.foldl (fun t pair => t.upsert pair.1 (f pair.2)) t).All P := by
  induction pairs generalizing t with
  | nil => exact ht
  | cons pair pairs ih =>
    rw [List.forall_mem_cons] at h
    exact ih (ht.upsert (h.1 none) fun a _ => h.1 (some a)) h.2

/-- What comes of every pair, whatever its key held before, holds of all entries. -/
theorem all_ofPairs [Std.LawfulEqCmp cmp] {β : Type} {P : κ → α → Prop} {f : β → Option α → α}
    {pairs : List (κ × β)} (h : ∀ pair ∈ pairs, ∀ old, P pair.1 (f pair.2 old)) :
    (ofPairs f pairs : Table cmp α).All P :=
  (all_empty P).foldl_upsert h

theorem lookup_of_mem {es : List (κ × α)}
    (h : (es.map Prod.fst).Pairwise (fun a b => cmp a b = .lt)) {entry : κ × α}
    (hentry : entry ∈ es) : lookup cmp entry.1 es = some entry.2 := by
  induction es with
  | nil => cases hentry
  | cons first es ih =>
    rw [List.map_cons, List.pairwise_cons] at h
    rcases List.mem_cons.mp hentry with rfl | hentry
    · rw [lookup, if_pos Std.ReflCmp.compare_self]
    · have hgt := Std.OrientedCmp.gt_of_lt (h.1 entry.1 (List.mem_map_of_mem hentry))
      rw [lookup, hgt, if_neg (by decide), ih h.2 hentry]

/-- What holds of all keys and their values holds of all entries. -/
theorem All.of_mem_entries {P : κ → α → Prop} {t : Table cmp α} (h : t.All P) {entry : κ × α}
    (hentry : entry ∈ t.entries) : P entry.1 entry.2 :=
  h entry.1 entry.2 (lookup_of_mem t.ascending hentry)

/-! ### Entries -/

omit [Std.TransCmp cmp] in
/-- Where only equal keys compare equal, entries are looked up like pairs in any list. -/
theorem lookup_eq_lookup [Std.LawfulEqCmp cmp] [BEq κ] [LawfulBEq κ] (key : κ)
    (es : List (κ × α)) : lookup cmp key es = es.lookup key := by
  induction es with
  | nil => rfl
  | cons e es ih =>
    obtain ⟨k, a⟩ := e
    rw [lookup, List.lookup_cons, ih]
    by_cases h : key = k
    · rw [h, beq_self_eq_true, if_pos Std.ReflCmp.compare_self]
    · rw [beq_eq_false_iff_ne.mpr h, if_neg (mt Std.LawfulEqCmp.eq_of_compare h)]

omit [Std.TransCmp cmp] in
theorem mem_of_lookup [Std.LawfulEqCmp cmp] {key : κ} {a : α} {es : List (κ × α)}
    (h : lookup cmp key es = some a) : (key, a) ∈ es := by
  induction es with
  | nil => cases h
  | cons entry es ih =>
    obtain ⟨k, b⟩ := entry
    rw [lookup] at h
    split at h
    · rename_i hk
      obtain rfl := Std.LawfulEqCmp.eq_of_compare hk
      obtain rfl := Option.some.inj h
      exact List.mem_cons_self
    · exact List.mem_cons_of_mem _ (ih h)

theorem get?_eq_some_iff [Std.LawfulEqCmp cmp] {t : Table cmp α} {key : κ} {a : α} :
    t.get? key = some a ↔ (key, a) ∈ t.entries :=
  ⟨mem_of_lookup, fun h => lookup_of_mem t.ascending h⟩

theorem isSome_get?_iff [Std.LawfulEqCmp cmp] {t : Table cmp α} {key : κ} :
    (t.get? key).isSome ↔ key ∈ t.keys := by
  rw [Option.isSome_iff_exists, keys, List.mem_map]
  simp [get?_eq_some_iff]

/-! ### Tables of pairs -/

section Pairs

variable [Std.LawfulEqCmp cmp] [DecidableEq κ] {β : Type}

/-- Of the pairs that are put into a table one after the other, a key only sees its own. -/
theorem get?_foldl_upsert (f : β → Option α → α) (pairs : List (κ × β)) (t : Table cmp α)
    (key : κ) :
    (pairs.foldl (fun t pair => t.upsert pair.1 (f pair.2)) t).get? key =
      (pairs.filter fun pair => pair.1 = key).foldl (fun old pair => some (f pair.2 old))
        (t.get? key) := by
  induction pairs generalizing t with
  | nil => rfl
  | cons pair pairs ih =>
    rw [List.foldl_cons, ih]
    by_cases hkey : pair.1 = key
    · rw [List.filter_cons_of_pos (by simpa using hkey), List.foldl_cons, ← hkey, get?_upsert_self]
    · rw [List.filter_cons_of_neg (by simpa using hkey), get?_upsert_of_ne t (Ne.symm hkey)]

/-- What a key of a table of pairs holds is made of the pairs with this key, in their order. -/
theorem get?_ofPairs (f : β → Option α → α) (pairs : List (κ × β)) (key : κ) :
    (ofPairs f pairs : Table cmp α).get? key =
      (pairs.filter fun pair => pair.1 = key).foldl (fun old pair => some (f pair.2 old)) none :=
  get?_foldl_upsert f pairs empty key

/-- The keys of a table of pairs are those of the pairs. -/
theorem mem_keys_ofPairs {f : β → Option α → α} {pairs : List (κ × β)} {key : κ} :
    key ∈ (ofPairs f pairs : Table cmp α).keys ↔ key ∈ pairs.map Prod.fst := by
  have hfold (own : List (κ × β)) (old : Option α) :
      (own.foldl (fun old pair => some (f pair.2 old)) old).isSome ↔ old.isSome ∨ own ≠ [] := by
    induction own generalizing old with
    | nil => simp
    | cons pair own ih => simp [ih]
  rw [← isSome_get?_iff, get?_ofPairs, hfold]
  simp [List.filter_eq_nil_iff]

end Pairs

/-! ### Sums and sizes -/

/-- The new sum and what the key held before are the old sum and what the key holds now. -/
theorem sum_upsert (t : Table cmp α) (key : κ) (f : Option α → α) (g : α → Nat) :
    ((t.upsert key f).values.map g).sum + ((t.get? key).map g).getD 0 =
      (t.values.map g).sum + g (f (t.get? key)) := by
  obtain ⟨es, h⟩ := t
  simp only [upsert, values, get?]
  induction es with
  | nil => simp [upsertEntries, lookup]
  | cons e es ih =>
    obtain ⟨k, a⟩ := e
    unfold upsertEntries
    split
    · rename_i hlt
      rw [lookup_cons_eq_none_of_lt h hlt]
      simp only [List.map_cons, List.sum_cons, Option.map_none, Option.getD_none]
      omega
    · rename_i heq
      simp only [lookup, heq, if_true, List.map_cons, List.sum_cons, Option.map_some,
        Option.getD_some]
      omega
    · rename_i hgt
      have hrest := ih (List.pairwise_cons.mp h).2
      simp only [lookup, hgt, reduceCtorEq, if_false, List.map_cons, List.sum_cons]
      omega

theorem size_upsert (t : Table cmp α) (key : κ) (f : Option α → α) :
    (t.upsert key f).size = if (t.get? key).isSome then t.size else t.size + 1 := by
  have hsize (u : Table cmp α) : (u.values.map fun _ => 1).sum = u.size := by
    rw [List.map_const', List.sum_replicate_nat, Nat.mul_one, values, List.length_map, size]
  have := sum_upsert t key f fun _ => 1
  rw [hsize, hsize] at this
  cases h : t.get? key <;> simp [h] at this ⊢ <;> omega

end Telemetry.Table
