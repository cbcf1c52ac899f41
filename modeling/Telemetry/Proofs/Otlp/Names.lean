import Telemetry.Otlp.Names
import Telemetry.Proofs.Value.Faithful

/-!
# Display names tell numbers apart

Numbers are shown by a list of names: those from zero on that have a name by it, and all others in
decimal.  If no name is used twice, and none could be taken for a decimal text (`Distinctive`), then
no two numbers are shown alike (`nameAmong_injective`), whether they have names or not.

The names of status codes, span kinds, severities and temporalities are all distinctive
(`distinctive_of_mem`).
-/

namespace Telemetry.Otlp

variable {names : List String} {number : Int32}

/-! ### Numbers with a name and numbers without -/

/-- A number from zero on is shown by its name if it has one. -/
theorem nameAmong_of_listed {n : Nat} (hnumber : number.toInt = n) (h : n < names.length) :
    nameAmong names number = names[n] := by
  have hname : names[number.toInt.toNat]? = some names[n] := by
    rw [hnumber, Int.toNat_natCast, List.getElem?_eq_getElem h]
  have hnonneg : 0 ≤ number.toInt := by omega
  simp only [nameAmong, if_pos hnonneg, hname]

/-- A number that has no name is shown in decimal. -/
theorem nameAmong_of_unlisted (h : number.toInt < 0 ∨ names.length ≤ number.toInt) :
    nameAmong names number = toString number.toInt := by
  have hnone : (if 0 ≤ number.toInt then names[number.toInt.toNat]? else none) = none := by
    split
    · exact List.getElem?_eq_none (by omega)
    · rfl
  simp only [nameAmong, hnone]

/-- A number has a name or it has none. -/
theorem listed_or (names : List String) (number : Int32) :
    (∃ n : Nat, number.toInt = n ∧ n < names.length) ∨
      (number.toInt < 0 ∨ names.length ≤ number.toInt) := by
  by_cases h : 0 ≤ number.toInt ∧ number.toInt < names.length
  · exact .inl ⟨number.toInt.toNat, by omega, by omega⟩
  · exact .inr (by omega)

/-- What is shown for a number is one of the names, or the number in decimal. -/
theorem nameAmong_mem_or (names : List String) (number : Int32) :
    nameAmong names number ∈ names ∨ nameAmong names number = toString number.toInt := by
  rcases listed_or names number with ⟨n, hn, h⟩ | h
  · rw [nameAmong_of_listed hn h]
    exact .inl (List.getElem_mem h)
  · exact .inr (nameAmong_of_unlisted h)

/-! ### Names that are no decimal texts -/

theorem toString_int_ne_empty (n : Int) : toString n ≠ "" := by
  intro h
  have hchars := congrArg String.toList h
  rw [Numeral.toList_toString_int] at hchars
  split at hchars
  · exact Nat.toDigits_ne_nil hchars
  · cases hchars

/-- No name is used twice, and each is empty or has a character that is neither a digit nor a minus
sign.  No decimal text is like that. -/
structure Distinctive (names : List String) : Prop where
  nodup : names.Nodup
  word : ∀ name ∈ names, name = "" ∨ name.toList.any fun c => !(c == '-' || c.isDigit)

instance (names : List String) : Decidable (Distinctive names) :=
  decidable_of_iff
    (names.Nodup ∧ ∀ name ∈ names, name = "" ∨ name.toList.any fun c => !(c == '-' || c.isDigit))
    ⟨fun h => ⟨h.1, h.2⟩, fun h => ⟨h.nodup, h.word⟩⟩

/-- No decimal text is among distinctive names. -/
theorem Distinctive.toString_not_mem (h : Distinctive names) (n : Int) : toString n ∉ names := by
  intro hmem
  rcases h.word _ hmem with hempty | hword
  · exact toString_int_ne_empty n hempty
  · obtain ⟨c, hc, hother⟩ := List.any_eq_true.mp hword
    rcases Numeral.of_mem_toString_int hc with rfl | hdigit
    · cases hother
    · simp [hdigit] at hother

/-- A name is never the decimal text of a number without a name. -/
theorem Distinctive.nameAmong_ne (h : Distinctive names) {a b : Int32} {n : Nat}
    (ha : a.toInt = n) (hn : n < names.length) (hb : b.toInt < 0 ∨ names.length ≤ b.toInt) :
    nameAmong names a ≠ nameAmong names b := by
  rw [nameAmong_of_listed ha hn, nameAmong_of_unlisted hb]
  intro hsame
  exact h.toString_not_mem _ (hsame ▸ List.getElem_mem hn)

/-- **Distinctive names tell numbers apart**, those with a name and those without. -/
theorem nameAmong_injective (h : Distinctive names) : Function.Injective (nameAmong names) := by
  intro a b hshown
  rcases listed_or names a with ⟨m, hm, hma⟩ | ha <;>
    rcases listed_or names b with ⟨n, hn, hnb⟩ | hb
  · rw [nameAmong_of_listed hm hma, nameAmong_of_listed hn hnb] at hshown
    have hsame : m = n := h.nodup.getElem_inj_iff.mp hshown
    exact Int32.toInt_inj.mp (by rw [hm, hn, hsame])
  · exact absurd hshown (h.nameAmong_ne hm hma hb)
  · exact absurd hshown.symm (h.nameAmong_ne hn hnb ha)
  · rw [nameAmong_of_unlisted ha, nameAmong_of_unlisted hb] at hshown
    exact Int32.toInt_inj.mp (toString_int_injective hshown)

/-- The numbers from zero on are shown by the names, all others in decimal, and no two alike. -/
structure ShowsByName (names : List String) (shown : Int32 → String) : Prop where
  listed : ∀ (number : Int32) (n : Nat) (h : n < names.length), number.toInt = n →
    shown number = names[n]
  unlisted : ∀ number : Int32, number.toInt < 0 ∨ names.length ≤ number.toInt →
    shown number = toString number.toInt
  injective : Function.Injective shown

theorem Distinctive.showsByName (h : Distinctive names) : ShowsByName names (nameAmong names) where
  listed _ _ hlt hnumber := nameAmong_of_listed hnumber hlt
  unlisted _ := nameAmong_of_unlisted
  injective := nameAmong_injective h

/-! ### The names of the protocol -/

/-- All lists of names are distinctive. -/
theorem distinctive_of_mem :
    ∀ names ∈ [statusNames, kindNames, severityNames, temporalityNames], Distinctive names := by
  decide

/-- There are six levels of severity with four degrees each, and the first degree is not counted. -/
theorem severityNames_eq : severityNames =
    "" :: ["Trace", "Debug", "Info", "Warn", "Error", "Fatal"].flatMap fun level =>
      [level, level ++ "2", level ++ "3", level ++ "4"] := by
  decide

theorem showsByName_status : ShowsByName statusNames statusName :=
  (distinctive_of_mem _ (by simp)).showsByName

theorem showsByName_kind : ShowsByName kindNames kindName :=
  (distinctive_of_mem _ (by simp)).showsByName

theorem showsByName_severity : ShowsByName severityNames severityName :=
  (distinctive_of_mem _ (by simp)).showsByName

example : severityName 24 = "Fatal4" ∧ severityName 25 = "25" ∧ severityName (-3) = "-3" := by
  decide

theorem showsByName_temporality : ShowsByName temporalityNames temporalityName :=
  (distinctive_of_mem _ (by simp)).showsByName

theorem temporalityName_ne_empty (value : Int32) : temporalityName value ≠ "" := by
  intro h
  rcases nameAmong_mem_or temporalityNames value with hname | hdecimal
  · rw [← temporalityName, h] at hname
    exact absurd hname (by decide)
  · rw [← temporalityName, h] at hdecimal
    exact toString_int_ne_empty _ hdecimal.symm

end Telemetry.Otlp
