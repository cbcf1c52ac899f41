import Telemetry.Proofs.Json.Faithful

/-!
# Faithful values

What is written of numbers, times, flags and ids tells exactly what they were (`Doc.faithful_int`
and the like).  Of a double it tells all but the payload of a NaN (`Doc.faithful_double`), and of a
value what it tells is the value up to values that are alike (`Value.faithful_toDoc`).
-/

namespace Telemetry

/-! ### Numbers and ids -/

theorem toString_int_injective : Function.Injective fun n : Int => toString n := by
  intro m n h
  have hread := Numeral.int?_toString m
  rw [show toString m = toString n from h, Numeral.int?_toString] at hread
  exact (Option.some.inj hread).symm

theorem toString_nat_injective : Function.Injective fun n : Nat => toString n :=
  fun _ _ h => Int.ofNat.inj (toString_int_injective h)

namespace Doc

theorem faithful_int : Faithful .int Eq :=
  faithful_envelope "_int" fun _ _ h => Int64.toInt_inj.mp (toString_int_injective h)

theorem faithful_uint : Faithful .uint Eq :=
  faithful_envelope "_int" fun _ _ h => UInt64.toNat_inj.mp (toString_nat_injective h)

theorem faithful_count : Faithful .count Eq :=
  faithful_envelope "_int" fun _ _ h => UInt32.toNat_inj.mp (toString_nat_injective h)

theorem faithful_timestamp : Faithful .timestamp Eq :=
  faithful_envelope "_ts" fun _ _ h => UInt64.toNat_inj.mp (toString_nat_injective h)

theorem faithful_flags : Faithful .flags Eq := by
  refine faithful_envelope "_flg" fun f g h => UInt32.toNat_inj.mp ?_
  have hread := Hex.number?_toDigits f.toNat
  rw [String.ofList_inj.mp h, Hex.number?_toDigits] at hread
  exact (Option.some.inj hread).symm

theorem faithful_id {kind : IdKind} : Faithful (@Id.toDoc kind) Eq :=
  faithful_envelope kind.tag Id.hex_injective

theorem faithful_spanRef : Faithful SpanRef.toDoc Eq := by
  intro r s
  have htrees : r.toDoc.tree = s.toDoc.tree ↔ r.span.hex = s.span.hex ∧ r.trace.hex = s.trace.hex := by
    simp [SpanRef.toDoc, tree, partTree]
  rw [htrees, Id.hex_injective.eq_iff, Id.hex_injective.eq_iff]
  cases r
  cases s
  simp [and_comm]

end Doc

/-! ### Doubles -/

namespace Double

/-- The doubles are equal, or both are NaNs, whatever their payloads. -/
def Alike (x y : Double) : Prop :=
  x = y ∨ x.isNaN = true ∧ y.isNaN = true

/-- There is one infinity of each sign. -/
theorem eq_of_isInfinite {x y : Double} (hx : x.isInfinite = true) (hy : y.isInfinite = true)
    (hsign : x.isNegative = y.isNegative) : x = y := by
  simp only [isInfinite, Bool.and_eq_true, beq_iff_eq] at hx hy
  rw [exponentBits_eq_div, fractionBits_eq_mod] at hx hy
  refine eq_of_magnitude_eq hsign ?_
  rw [← Nat.div_add_mod x.magnitude fractions, ← Nat.div_add_mod y.magnitude fractions, hx.1, hx.2,
    hy.1, hy.2]

end Double

namespace Value

/-- The name of an infinity tells its sign. -/
theorem infinityName_inj : ∀ {m n : Bool},
    (if m then "-Inf" else "+Inf") = (if n then "-Inf" else "+Inf") → m = n := by
  decide

theorem infinityName_ne_nan : ∀ n : Bool, (if n then "-Inf" else "+Inf") ≠ "NaN" := by
  decide

/-- Doubles that are written as one name are alike. -/
theorem alike_of_doubleName? {x y : Double} {name : String} (hx : Doc.doubleName? x = some name)
    (hy : Doc.doubleName? y = some name) : x.Alike y := by
  have hcases {z : Double} (hz : Doc.doubleName? z = some name) :
      (z.isNaN = true ∧ name = "NaN") ∨
        (z.isInfinite = true ∧ name = if z.isNegative then "-Inf" else "+Inf") := by
    unfold Doc.doubleName? at hz
    by_cases hnan : z.isNaN = true
    · rw [if_pos hnan] at hz
      exact .inl ⟨hnan, (Option.some.inj hz).symm⟩
    · rw [if_neg hnan, Option.ite_none_right_eq_some] at hz
      exact .inr ⟨hz.1, (Option.some.inj hz.2).symm⟩
  rcases hcases hx with ⟨hxnan, rfl⟩ | ⟨hxinfinite, rfl⟩ <;>
    rcases hcases hy with ⟨hynan, hname⟩ | ⟨hyinfinite, hname⟩
  · exact .inr ⟨hxnan, hynan⟩
  · exact absurd hname.symm (infinityName_ne_nan _)
  · exact absurd hname (infinityName_ne_nan _)
  · exact .inl (Double.eq_of_isInfinite hxinfinite hyinfinite (infinityName_inj hname))

theorem ofDouble_eq_iff {x y : Double} : ofDouble x = ofDouble y ↔ x.Alike y := by
  constructor
  · intro h
    unfold ofDouble at h
    cases hx : Doc.doubleName? x <;> cases hy : Doc.doubleName? y <;> rw [hx, hy] at h
    · exact .inl (Value.double.inj h)
    · cases h
    · cases h
    · obtain rfl := Value.string.inj h
      exact alike_of_doubleName? hx hy
  · rintro (rfl | ⟨hx, hy⟩)
    · rfl
    · have hname {z : Double} (hz : z.isNaN = true) : ofDouble z = .string "NaN" :=
        ofDouble_of_doubleName? (by rw [Doc.doubleName?, if_pos hz])
      rw [hname hx, hname hy]

end Value

theorem Doc.faithful_double : Faithful .double Double.Alike := by
  intro x y
  have htree (z : Double) : (Value.ofDouble z).toDoc.tree = (Doc.double z).tree := by
    unfold Value.ofDouble
    cases hname : doubleName? z with
    | some name =>
      rw [Doc.tree, doubleTree, hname]
      rfl
    | none => rfl
  rw [← Value.ofDouble_eq_iff]
  constructor
  · intro h
    have hx := Value.ofJson?_doubleTree x
    rw [show doubleTree x = doubleTree y from h, Value.ofJson?_doubleTree] at hx
    exact (Option.some.inj hx).symm
  · intro h
    rw [← htree, ← htree, h]

/-! ### Values and attributes -/

/-- **A document of a value tells the value**, up to values that are alike. -/
theorem Value.faithful_toDoc : Doc.Faithful toDoc Alike := by
  intro v w
  rw [alike_iff]
  constructor
  · intro h
    have hv := ofJson?_tree v
    rw [h, ofJson?_tree w] at hv
    exact (Option.some.inj hv).symm
  · intro h
    rw [← Doc.text_eq_iff (hasPlainTags_toDoc v) (hasPlainTags_toDoc w), ← text_shown v,
      ← text_shown w, h]

namespace Attributes

/-- The maps have the same keys, and under each key values that are alike. -/
def Alike (m n : Attributes) : Prop :=
  List.Forall₂ (fun e f => e.1 = f.1 ∧ Value.Alike e.2 f.2) m n

theorem entryDocs_eq_map (m : Attributes) :
    Value.entryDocs m = m.map fun entry => (entry.1, entry.2.toDoc) := by
  induction m with
  | nil => rfl
  | cons entry m ih => rw [Value.entryDocs, ih, List.map_cons]

theorem faithful_toDoc : Doc.Faithful toDoc Alike := by
  have hdoc : toDoc = fun m => .map (m.map fun entry => (entry.1, entry.2.toDoc)) :=
    funext fun m => congrArg Doc.map (entryDocs_eq_map m)
  rw [hdoc]
  exact Doc.faithful_map Function.injective_id Value.faithful_toDoc

end Attributes

end Telemetry
