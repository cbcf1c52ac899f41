/-!
# Tables

A table maps keys to values and keeps its entries in strictly ascending key order, so equal
contents mean equal tables and a listing needs no sorting. Every change goes through `upsert`,
which says what a key holds afterwards in terms of what it held before; `Table.get?_upsert` is
that rule.
-/

namespace Telemetry

/-- A finite map whose entries stand in strictly ascending key order. -/
structure Table {κ : Type} (cmp : κ → κ → Ordering) (α : Type) where
  entries : List (κ × α)
  ascending : (entries.map Prod.fst).Pairwise (fun a b => cmp a b = .lt)

namespace Table

variable {κ α : Type} {cmp : κ → κ → Ordering}

/-- The table without entries. -/
def empty : Table cmp α := ⟨[], List.Pairwise.nil⟩

instance : Inhabited (Table cmp α) := ⟨empty⟩

/-- The keys in ascending order. -/
def keys (t : Table cmp α) : List κ := t.entries.map Prod.fst

/-- The values in ascending order of their keys. -/
def values (t : Table cmp α) : List α := t.entries.map Prod.snd

/-- The number of entries. -/
def size (t : Table cmp α) : Nat := t.entries.length

/-- The value at the first entry whose key compares equal to `key`. -/
def lookup (cmp : κ → κ → Ordering) (key : κ) : List (κ × α) → Option α
  | [] => none
  | (k, a) :: rest => if cmp key k = .eq then some a else lookup cmp key rest

/-- The value at a key. -/
def get? (t : Table cmp α) (key : κ) : Option α := lookup cmp key t.entries

/-- Changes the value at `key`, or puts a new entry at its place. -/
def upsertEntries (cmp : κ → κ → Ordering) (key : κ) (f : Option α → α) :
    List (κ × α) → List (κ × α)
  | [] => [(key, f none)]
  | (k, a) :: rest =>
    match cmp key k with
    | .lt => (key, f none) :: (k, a) :: rest
    | .eq => (k, f (some a)) :: rest
    | .gt => (k, a) :: upsertEntries cmp key f rest

theorem mem_keys_upsertEntries {key x : κ} {f : Option α → α} {es : List (κ × α)}
    (h : x ∈ (upsertEntries cmp key f es).map Prod.fst) : x = key ∨ x ∈ es.map Prod.fst := by
  induction es with
  | nil => simpa [upsertEntries] using h
  | cons e rest ih =>
    obtain ⟨k, a⟩ := e
    unfold upsertEntries at h
    split at h
    · simpa using h
    · exact Or.inr (by simpa using h)
    · simp only [List.map_cons, List.mem_cons] at h ⊢
      rcases h with h | h
      · exact Or.inr (Or.inl h)
      · exact (ih h).imp_right Or.inr

theorem ascending_upsertEntries [Std.TransCmp cmp] {key : κ} {f : Option α → α}
    {es : List (κ × α)} (h : (es.map Prod.fst).Pairwise (fun a b => cmp a b = .lt)) :
    ((upsertEntries cmp key f es).map Prod.fst).Pairwise (fun a b => cmp a b = .lt) := by
  induction es with
  | nil => simp [upsertEntries]
  | cons e rest ih =>
    obtain ⟨k, a⟩ := e
    simp only [List.map_cons, List.pairwise_cons] at h
    unfold upsertEntries
    split
    · rename_i lt
      simp only [List.map_cons, List.pairwise_cons, List.mem_cons]
      refine ⟨fun x hx => ?_, h⟩
      rcases hx with rfl | hx
      · exact lt
      · exact Std.TransCmp.lt_trans lt (h.1 x hx)
    · simpa using h
    · rename_i gt
      simp only [List.map_cons, List.pairwise_cons]
      refine ⟨fun x hx => ?_, ih h.2⟩
      rcases mem_keys_upsertEntries hx with rfl | hx
      · exact Std.OrientedCmp.lt_of_gt gt
      · exact h.1 x hx

/-- A key before the first one has no value. -/
theorem lookup_eq_none_of_lt [Std.TransCmp cmp] {key : κ} {es : List (κ × α)}
    (h : ∀ k ∈ es.map Prod.fst, cmp key k = .lt) : lookup cmp key es = none := by
  induction es with
  | nil => rfl
  | cons e rest ih =>
    obtain ⟨k, a⟩ := e
    simp only [List.map_cons, List.mem_cons, forall_eq_or_imp] at h
    simp [lookup, h.1, ih h.2]

theorem lookup_upsertEntries [Std.TransCmp cmp] {key k : κ} {f : Option α → α}
    {es : List (κ × α)} (h : (es.map Prod.fst).Pairwise (fun a b => cmp a b = .lt)) :
    lookup cmp k (upsertEntries cmp key f es) =
      if cmp k key = .eq then some (f (lookup cmp key es)) else lookup cmp k es := by
  induction es with
  | nil => simp [upsertEntries, lookup]
  | cons e rest ih =>
    obtain ⟨first, a⟩ := e
    simp only [List.map_cons, List.pairwise_cons] at h
    unfold upsertEntries
    split
    · rename_i before
      have missing : lookup cmp key ((first, a) :: rest) = none := by
        apply lookup_eq_none_of_lt
        intro x hx
        simp only [List.map_cons, List.mem_cons] at hx
        rcases hx with rfl | hx
        · exact before
        · exact Std.TransCmp.lt_trans before (h.1 x hx)
      rw [missing, lookup]
    · rename_i same
      rw [lookup, lookup, lookup, if_pos same, Std.TransCmp.congr_right same]
      by_cases at_key : cmp k first = .eq
      · rw [if_pos at_key, if_pos at_key]
      · rw [if_neg at_key, if_neg at_key, if_neg at_key]
    · rename_i after
      have apart_first : ¬ cmp key first = .eq := by simp [after]
      rw [lookup, lookup, lookup, ih h.2, if_neg apart_first]
      by_cases at_first : cmp k first = .eq
      · have apart : ¬ cmp k key = .eq := by
          intro same
          rw [Std.TransCmp.congr_left same, after] at at_first
          cases at_first
        rw [if_pos at_first, if_neg apart, if_pos at_first]
      · rw [if_neg at_first, if_neg at_first]

/-- **The one way a table changes.** Afterwards `key` holds `f` of what it held before; every
other key holds what it held. -/
def upsert [Std.TransCmp cmp] (t : Table cmp α) (key : κ) (f : Option α → α) : Table cmp α :=
  ⟨upsertEntries cmp key f t.entries, ascending_upsertEntries t.ascending⟩

@[simp] theorem get?_empty (k : κ) : (empty : Table cmp α).get? k = none := rfl

/-- What a key holds after a change. -/
theorem get?_upsert [Std.TransCmp cmp] (t : Table cmp α) (key k : κ) (f : Option α → α) :
    (t.upsert key f).get? k = if cmp k key = .eq then some (f (t.get? key)) else t.get? k :=
  lookup_upsertEntries t.ascending

/-- Puts a value at a key that has none; a key that has one keeps it. -/
def insertIfNew [Std.TransCmp cmp] (t : Table cmp α) (key : κ) (a : α) : Table cmp α :=
  t.upsert key fun
    | some old => old
    | none => a

/-- What a key holds after a value was put where there may have been one. -/
theorem get?_insertIfNew [Std.TransCmp cmp] (t : Table cmp α) (key k : κ) (a : α) :
    (t.insertIfNew key a).get? k =
      if cmp k key = .eq then some ((t.get? key).getD a) else t.get? k := by
  rw [insertIfNew, get?_upsert]
  cases t.get? key <;> rfl

/-- The table of the given pairs; each is handed to `f` with what its key held before. -/
def ofPairs {β : Type} [Std.TransCmp cmp] (f : β → Option α → α) (pairs : List (κ × β)) :
    Table cmp α :=
  pairs.foldl (fun t (key, b) => t.upsert key (f b)) empty

end Table

end Telemetry
