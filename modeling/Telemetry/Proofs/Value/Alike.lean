import Telemetry.Proofs.Json.ReadBack
import Telemetry.Value.Basic

/-!
# Values that look alike

The text of an integer does not say whether it is signed or unsigned, and a NaN or an infinity is
written as a string.  Values are alike if they differ in nothing else, at any depth (`Value.Alike`).
Of values that are alike one is shown for all (`Value.shown`), so being alike is the same as being
shown as one value (`alike_iff`).
-/

namespace Telemetry.Value

/-- The smallest equivalence by which a signed integer is alike to the unsigned one of the same
number, and a double without number to the string that names it, in whatever arrays and maps they
stand. -/
inductive Alike : Value → Value → Prop
  | refl (v : Value) : Alike v v
  | symm {v w : Value} : Alike v w → Alike w v
  | trans {u v w : Value} : Alike u v → Alike v w → Alike u w
  | integer {n : Int64} {m : UInt64} (h : n.toInt = m.toNat) : Alike (.int n) (.uint m)
  | nan {x : Double} (h : x.isNaN = true) : Alike (.double x) (.string "NaN")
  | infinity {x : Double} (h : x.isInfinite = true) (hsign : x.isNegative = false) :
    Alike (.double x) (.string "+Inf")
  | negInfinity {x : Double} (h : x.isInfinite = true) (hsign : x.isNegative = true) :
    Alike (.double x) (.string "-Inf")
  | item {v w : Value} (before after : List Value) :
    Alike v w → Alike (.array (before ++ v :: after)) (.array (before ++ w :: after))
  | entry {v w : Value} (before : Attributes) (key : String) (after : Attributes) :
    Alike v w → Alike (.map (before ++ (key, v) :: after)) (.map (before ++ (key, w) :: after))

/-! ### The value that is shown -/

/-- An unsigned integer, as a signed one wherever that is possible. -/
def ofUInt (n : UInt64) : Value :=
  if n.toNat < 2 ^ 63 then .int (.ofInt n.toNat) else .uint n

/-- A double, as its name if it has no number. -/
def ofDouble (x : Double) : Value :=
  match Doc.doubleName? x with
  | some name => .string name
  | none => .double x

mutual

/-- What is shown of a value. -/
def shown : Value → Value
  | .uint n => ofUInt n
  | .double x => ofDouble x
  | .array items => .array (itemsShown items)
  | .map entries => .map (entriesShown entries)
  | v => v

/-- What is shown of the items of an array. -/
def itemsShown : List Value → List Value
  | [] => []
  | v :: vs => shown v :: itemsShown vs

/-- What is shown of the entries of a map. -/
def entriesShown : List (String × Value) → List (String × Value)
  | [] => []
  | (k, v) :: rest => (k, shown v) :: entriesShown rest

end

/-- A key is never a tag, an integer is signed if it can be, and a NaN is a string. -/
example :
    (Value.map [("_int", .uint 5), ("x", .double ⟨0x7FF8000000000001⟩)]).shown =
      .map [("_int", .int 5), ("x", .string "NaN")] := by
  rfl

theorem itemsShown_append (vs ws : List Value) :
    itemsShown (vs ++ ws) = itemsShown vs ++ itemsShown ws := by
  induction vs with
  | nil => rfl
  | cons v vs ih => rw [List.cons_append, itemsShown, itemsShown, ih, List.cons_append]

theorem entriesShown_append (m n : List (String × Value)) :
    entriesShown (m ++ n) = entriesShown m ++ entriesShown n := by
  induction m with
  | nil => rfl
  | cons entry m ih =>
    rw [List.cons_append, entriesShown, entriesShown, ih, List.cons_append]

/-! ### Alike values are shown as one -/

theorem toInt_ofInt_toNat {n : UInt64} (h : n.toNat < 2 ^ 63) :
    (Int64.ofInt n.toNat).toInt = n.toNat :=
  Int64.toInt_ofInt_of_le (by omega) (by omega)

theorem ofUInt_eq_int {n : Int64} {m : UInt64} (h : n.toInt = m.toNat) : ofUInt m = .int n := by
  have hlt := n.toInt_lt
  rw [ofUInt, if_pos (by omega), ← h, Int64.ofInt_toInt]

theorem not_isNaN_of_isInfinite {x : Double} (h : x.isInfinite = true) : ¬ x.isNaN = true := by
  simp only [Double.isInfinite, Double.isNaN, Bool.and_eq_true, beq_iff_eq, bne_iff_ne] at h ⊢
  exact fun hnan => hnan.2 h.2

theorem ofDouble_of_doubleName? {x : Double} {name : String} (h : Doc.doubleName? x = some name) :
    ofDouble x = .string name := by
  rw [ofDouble, h]

theorem Alike.shown_eq {v w : Value} (h : Alike v w) : v.shown = w.shown := by
  induction h with
  | refl v => rfl
  | symm _ ih => exact ih.symm
  | trans _ _ ihuv ihvw => exact ihuv.trans ihvw
  | integer h => exact (ofUInt_eq_int h).symm
  | nan h => exact ofDouble_of_doubleName? (by rw [Doc.doubleName?, if_pos h])
  | infinity h hsign =>
    refine ofDouble_of_doubleName? ?_
    rw [Doc.doubleName?, if_neg (not_isNaN_of_isInfinite h), if_pos h, hsign]
    rfl
  | negInfinity h hsign =>
    refine ofDouble_of_doubleName? ?_
    rw [Doc.doubleName?, if_neg (not_isNaN_of_isInfinite h), if_pos h, hsign]
    rfl
  | item before after _ ih =>
    rw [shown, shown, itemsShown_append, itemsShown_append, itemsShown, itemsShown, ih]
  | entry before key after _ ih =>
    rw [shown, shown, entriesShown_append, entriesShown_append, entriesShown, entriesShown, ih]

/-! ### A value is alike to what is shown of it -/

theorem alike_ofUInt (n : UInt64) : Alike (.uint n) (ofUInt n) := by
  unfold ofUInt
  split
  · rename_i h
    exact .symm (.integer (toInt_ofInt_toNat h))
  · exact .refl _

theorem alike_ofDouble (x : Double) : Alike (.double x) (ofDouble x) := by
  unfold ofDouble Doc.doubleName?
  by_cases hnan : x.isNaN = true
  · rw [if_pos hnan]
    exact .nan hnan
  · by_cases hinfinite : x.isInfinite = true
    · rw [if_neg hnan, if_pos hinfinite]
      cases hsign : x.isNegative with
      | true => exact .negInfinity hinfinite hsign
      | false => exact .infinity hinfinite hsign
    · rw [if_neg hnan, if_neg hinfinite]
      exact .refl _

mutual

theorem alike_shown : ∀ v : Value, Alike v v.shown
  | .bool _ => .refl _
  | .int _ => .refl _
  | .uint n => alike_ofUInt n
  | .timestamp _ => .refl _
  | .flags _ => .refl _
  | .double x => alike_ofDouble x
  | .string _ => .refl _
  | .bytes _ => .refl _
  | .array items => alike_itemsShown items []
  | .map entries => alike_entriesShown entries []

/-- The items are replaced by what is shown of them, one after the other. -/
theorem alike_itemsShown : ∀ vs before : List Value,
    Alike (.array (before ++ vs)) (.array (before ++ itemsShown vs))
  | [], _ => .refl _
  | v :: vs, before => by
    have hrest := alike_itemsShown vs (before ++ [v.shown])
    rw [List.append_assoc, List.append_assoc] at hrest
    exact .trans (.item before vs (alike_shown v)) hrest

theorem alike_entriesShown : ∀ entries before : List (String × Value),
    Alike (.map (before ++ entries)) (.map (before ++ entriesShown entries))
  | [], _ => .refl _
  | (k, v) :: rest, before => by
    have hrest := alike_entriesShown rest (before ++ [(k, v.shown)])
    rw [List.append_assoc, List.append_assoc] at hrest
    exact .trans (.entry before k rest (alike_shown v)) hrest

end

/-- **Values are alike exactly if the same is shown of them.** -/
theorem alike_iff {v w : Value} : Alike v w ↔ v.shown = w.shown := by
  refine ⟨Alike.shown_eq, fun h => .trans (alike_shown v) ?_⟩
  rw [h]
  exact .symm (alike_shown w)

end Telemetry.Value
