/-!
# Decimal numerals

Counts and ports are read from runs of decimal digits. Leading zeros do not matter, and where a
sign is allowed a plus sign does not either. `Numeral.number?_toDigits` says that what is written
in decimal is read back.
-/

namespace Telemetry.Numeral

/-- The value of a decimal digit. -/
def value (c : Char) : Nat :=
  c.toNat - '0'.toNat

/-- The number that a run of decimal digits denotes. -/
def number (digits : List Char) : Nat :=
  Nat.ofDigitChars 10 digits 0

/-- The number that a text of one or more decimal digits denotes. -/
def number? (text : List Char) : Option Nat :=
  if text ≠ [] ∧ text.all Char.isDigit then some (number text) else none

/-- The number that decimal digits denote, in front of which a plus sign may stand. -/
def unsigned? (text : List Char) : Option Nat :=
  match text with
  | '+' :: digits => number? digits
  | _ => number? text

/-- **A text is a number exactly if it is digits and nothing else.** -/
theorem number?_eq_some_iff {text : List Char} {n : Nat} :
    number? text = some n ↔ text ≠ [] ∧ (∀ c ∈ text, c.isDigit) ∧ number text = n := by
  unfold number?
  split
  · rename_i h
    simp only [List.all_eq_true] at h
    constructor
    · intro same
      exact ⟨h.1, h.2, Option.some.inj same⟩
    · rintro ⟨_, _, rfl⟩
      rfl
  · rename_i h
    constructor
    · intro absurd
      cases absurd
    · rintro ⟨nonempty, digits, _⟩
      exact absurd ⟨nonempty, List.all_eq_true.mpr digits⟩ h

/-- **What is written in decimal is read back.** -/
@[simp] theorem number?_toDigits (n : Nat) : number? (Nat.toDigits 10 n) = some n := by
  rw [number?_eq_some_iff]
  refine ⟨Nat.toDigits_ne_nil, ?_, ?_⟩
  · intro c hc
    exact Nat.isDigit_of_mem_toDigits (by decide) (by decide) hc
  · exact Nat.ofDigitChars_toDigits (by decide) (by decide)

end Telemetry.Numeral
