import Mathlib.Algebra.Order.Ring.Nat
import Mathlib.Tactic.Ring
import Telemetry.Numeral

/-!
# Decimal texts

The text of an integer is made of digits, after a minus sign where it is negative
(`toList_toString_int`).  A run of digits denotes a number place by place (`number_append`), and the
text of a number other than zero has no zero in front (`head_toDigits_ne`).
-/

namespace Telemetry.Numeral

/-! ### Texts of integers -/

/-- The characters of an integer in decimal. -/
theorem toList_toString_int (n : Int) :
    (toString n).toList =
      if 0 ≤ n then Nat.toDigits 10 n.toNat else '-' :: Nat.toDigits 10 (-n).toNat := by
  rw [Int.toString_eq_repr, Int.repr_eq_if]
  split
  · exact Nat.toList_repr
  · rw [String.toList_append, Nat.toList_repr]
    rfl

theorem isDigit_of_mem_toDigits {n : Nat} {c : Char} (h : c ∈ Nat.toDigits 10 n) : c.isDigit :=
  Nat.isDigit_of_mem_toDigits (by decide) (by decide) h

theorem of_mem_toString_int {n : Int} {c : Char} (h : c ∈ (toString n).toList) :
    c = '-' ∨ c.isDigit := by
  rw [toList_toString_int] at h
  split at h
  · exact .inr (isDigit_of_mem_toDigits h)
  · exact (List.mem_cons.mp h).imp_right isDigit_of_mem_toDigits

/-! ### The number that digits denote -/

theorem number_append (a b : List Char) :
    number (a ++ b) = number a * 10 ^ b.length + number b := by
  rw [number, Nat.ofDigitChars_append, Nat.ofDigitChars_eq_ofDigitChars_zero, number, number]
  ring

theorem number_replicate_zero (n : Nat) : number (List.replicate n '0') = 0 := by
  induction n with
  | zero => rfl
  | succ n ih =>
    rw [List.replicate_succ']
    rw [number_append, ih]
    rfl

@[simp] theorem number_toDigits (n : Nat) : number (Nat.toDigits 10 n) = n :=
  Nat.ofDigitChars_toDigits (by decide) (by decide)

theorem number_singleton_le {c : Char} (h : c.isDigit) : number [c] ≤ 9 := by
  have hc : c.toNat ≤ 57 := by
    simp only [Char.isDigit, Bool.and_eq_true, decide_eq_true_eq] at h
    exact h.2
  have hvalue : number [c] = 10 * 0 + (c.toNat - '0'.toNat) := rfl
  have hzero : '0'.toNat = 48 := rfl
  omega

theorem number_lt {digits : List Char} (h : ∀ c ∈ digits, c.isDigit) :
    number digits < 10 ^ digits.length := by
  induction digits with
  | nil => decide
  | cons c rest ih =>
    have hc := number_singleton_le (h c List.mem_cons_self)
    have hrest := ih fun d hd => h d (List.mem_cons_of_mem _ hd)
    have hsplit := number_append [c] rest
    rw [List.singleton_append] at hsplit
    rw [hsplit, List.length_cons, pow_succ]
    have hmul := Nat.mul_le_mul_right (10 ^ rest.length) hc
    omega

theorem pow_length_toDigits_le {n : Nat} (h : n ≠ 0) :
    10 ^ ((Nat.toDigits 10 n).length - 1) ≤ n := by
  by_cases hone : (Nat.toDigits 10 n).length - 1 = 0
  · rw [hone, pow_zero]
    omega
  · by_contra hlt
    have := (Nat.length_toDigits_le_iff (b := 10) (by decide) (by omega)).mpr (not_le.mp hlt)
    omega

/-- The decimal text of a number other than zero does not begin with a zero. -/
theorem head_toDigits_ne {n : Nat} (h : n ≠ 0) {c : Char} {rest : List Char}
    (hdigits : Nat.toDigits 10 n = c :: rest) : c ≠ '0' := by
  rintro rfl
  have hpow := pow_length_toDigits_le h
  have hnumber := number_toDigits n
  have hsplit := number_append ['0'] rest
  have hlt : number rest < 10 ^ rest.length := number_lt fun d hd =>
    isDigit_of_mem_toDigits (by rw [hdigits]; exact List.mem_cons_of_mem _ hd)
  have hzero : number ['0'] = 0 := rfl
  rw [hdigits, List.length_cons, Nat.add_sub_cancel] at hpow
  rw [List.singleton_append, ← hdigits, hnumber, hzero, Nat.zero_mul, Nat.zero_add] at hsplit
  omega

end Telemetry.Numeral
