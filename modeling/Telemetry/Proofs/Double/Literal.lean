import Mathlib.Data.List.DropRight
import Mathlib.Tactic.FieldSimp
import Telemetry.Double.Text
import Telemetry.Json.Tree
import Telemetry.Proofs.Double.Shortest

/-!
# Doubles as number literals

The text of a finite double is that of a number literal (`text_literal`), one that JSON allows
(`isProper_literal`).  Its sign is the sign of the double, and its digits and exponent denote the
shortest decimal (`magnitude_literal`), whether they are written positionally or not.  That decimal
rounds to one magnitude only, so a finite double is read back from its literal
(`ofLiteral?_literal`).
-/

namespace Telemetry

/-! ### Number literals -/

namespace NumberLiteral

/-- What is written from the point on. -/
def fractionText : Option (List Char) → List Char
  | none => []
  | some digits => '.' :: digits

/-- What is written of an exponent. -/
def exponentText : Option (Bool × List Char) → List Char
  | none => []
  | some (negative, digits) => 'e' :: (if negative then '-' else '+') :: digits

/-- A number literal as it is written, without its sign. -/
def unsignedText (n : NumberLiteral) : List Char :=
  n.whole ++ fractionText n.fraction ++ exponentText n.exponent

/-- A number literal as it is written. -/
def text (n : NumberLiteral) : List Char :=
  (if n.negative then ['-'] else []) ++ n.unsignedText

/-- One or more digits. -/
def IsDigits (text : List Char) : Prop :=
  text ≠ [] ∧ ∀ c ∈ text, c.isDigit

/-- The literal is one that JSON allows: there are digits before the point, without needless zeros
in front, and there are digits after a point and in an exponent. -/
structure IsProper (n : NumberLiteral) : Prop where
  whole : IsDigits n.whole
  noLeadingZero : n.whole = ['0'] ∨ n.whole.head? ≠ some '0'
  fraction : ∀ digits, n.fraction = some digits → IsDigits digits
  exponent : ∀ negative digits, n.exponent = some (negative, digits) → IsDigits digits

/-- The power of ten that an exponent says. -/
def shift (n : NumberLiteral) : Int :=
  match n.exponent with
  | none => 0
  | some (negative, digits) =>
    if negative then -(Numeral.number digits : Int) else Numeral.number digits

/-- The number that a literal denotes, without its sign. -/
def magnitude (n : NumberLiteral) : ℚ :=
  Numeral.number (n.whole ++ n.fraction.getD []) * 10 ^ (n.shift - (n.fraction.getD []).length)

end NumberLiteral

namespace Double

/-! ### Significant digits -/

/-- The digits that a double other than zero is written with. -/
def significantDigits (x : Double) : List Char :=
  withoutTrailingZeros (Nat.toDigits 10 x.shortest.digits)

/-- The place of the first of these digits. -/
def leading (x : Double) : Int :=
  x.shortest.exponent + (Nat.toDigits 10 x.shortest.digits).length - 1

/-- Where digits do not begin with a zero only zeros at their end are left out. -/
theorem exists_withoutTrailingZeros {digits : List Char} (hne : digits ≠ [])
    (hhead : digits.head? ≠ some '0') :
    withoutTrailingZeros digits ≠ [] ∧
      ∃ n, digits = withoutTrailingZeros digits ++ List.replicate n '0' := by
  have hsplit : digits.rdropWhile (· == '0') ++ digits.rtakeWhile (· == '0') = digits :=
    List.rdropWhile_append_rtakeWhile
  have hzeros : digits.rtakeWhile (· == '0') =
      List.replicate (digits.rtakeWhile (· == '0')).length '0' :=
    List.eq_replicate_of_mem fun c hc => by simpa using List.mem_rtakeWhile_imp hc
  have hkept : digits.rdropWhile (· == '0') ≠ [] := by
    intro hnil
    rw [hnil, List.nil_append] at hsplit
    rw [hsplit] at hzeros
    obtain ⟨c, rest, rfl⟩ := List.exists_cons_of_ne_nil hne
    rw [List.length_cons, List.replicate_succ] at hzeros
    exact absurd (by rw [(List.cons.inj hzeros).1]; rfl) hhead
  have heq : withoutTrailingZeros digits = digits.rdropWhile (· == '0') := by
    unfold withoutTrailingZeros
    split
    · rename_i hnil
      exact absurd hnil hkept
    · rfl
  rw [heq]
  exact ⟨hkept, _, by rw [← hzeros, hsplit]⟩

/-- Digits that do not begin with a zero. -/
structure IsSignificant (digits : List Char) : Prop where
  isDigits : NumberLiteral.IsDigits digits
  head : digits.head? ≠ some '0'

section Nonzero

variable {x : Double} (h : x.magnitude ≠ 0)
include h

theorem head?_toDigits_shortest :
    (Nat.toDigits 10 x.shortest.digits).head? ≠ some '0' := by
  obtain ⟨c, rest, hcons⟩ := List.exists_cons_of_ne_nil
    (Nat.toDigits_ne_nil (n := x.shortest.digits) (b := 10))
  rw [hcons]
  simpa using Numeral.head_toDigits_ne (digits_shortest_ne_zero h) hcons

/-- The significant digits are those of the shortest decimal up to zeros at their end. -/
theorem exists_toDigits_shortest :
    ∃ n, Nat.toDigits 10 x.shortest.digits = x.significantDigits ++ List.replicate n '0' :=
  (exists_withoutTrailingZeros Nat.toDigits_ne_nil (head?_toDigits_shortest h)).2

theorem isSignificant_significantDigits : IsSignificant x.significantDigits := by
  have hne : x.significantDigits ≠ [] :=
    (exists_withoutTrailingZeros Nat.toDigits_ne_nil (head?_toDigits_shortest h)).1
  have hhead := head?_toDigits_shortest h
  obtain ⟨n, hn⟩ := exists_toDigits_shortest h
  refine ⟨⟨hne, fun c hc => ?_⟩, ?_⟩
  · refine Numeral.isDigit_of_mem_toDigits (n := x.shortest.digits) ?_
    rw [hn]
    exact List.mem_append_left _ hc
  · rwa [hn, List.head?_append_of_ne_nil _ hne] at hhead

/-- The significant digits at their places denote the shortest decimal. -/
theorem number_significantDigits :
    (Numeral.number x.significantDigits : ℚ) *
      10 ^ (x.leading + 1 - x.significantDigits.length) = x.shortest.value := by
  obtain ⟨n, hn⟩ := exists_toDigits_shortest h
  have hnumber := Numeral.number_toDigits x.shortest.digits
  have hlength := congrArg List.length hn
  rw [hn, Numeral.number_append, Numeral.number_replicate_zero, List.length_replicate] at hnumber
  rw [List.length_append, List.length_replicate] at hlength
  have hexponent : x.leading + 1 - x.significantDigits.length = x.shortest.exponent + n := by
    rw [leading, hlength]
    push_cast
    ring
  have hdigits : (x.shortest.digits : ℚ) = Numeral.number x.significantDigits * 10 ^ n := by
    rw [← hnumber]
    push_cast
    ring
  rw [hexponent, Decimal.value, hdigits, zpow_add₀ (by norm_num), zpow_natCast]
  ring

end Nonzero

/-! ### The literal of a double -/

/-- Digits in positional notation, the first of them at `10 ^ leading`. -/
def positionalLiteral (negative : Bool) (digits : List Char) (leading : Int) : NumberLiteral :=
  if leading < 0 then
    ⟨negative, ['0'], some (List.replicate (-leading - 1).toNat '0' ++ digits), none⟩
  else
    let whole := leading.toNat + 1
    let fraction := digits.drop whole
    ⟨negative, digits.take whole ++ List.replicate (whole - digits.length) '0',
      some (if fraction.isEmpty then ['0'] else fraction), none⟩

/-- Digits in scientific notation, the first of them at `10 ^ leading`. -/
def scientificLiteral (negative : Bool) (digits : List Char) (leading : Int) : NumberLiteral :=
  let fraction := digits.drop 1
  ⟨negative, digits.take 1, if fraction.isEmpty then none else some fraction,
    some (decide (leading < 0), Nat.toDigits 10 leading.natAbs)⟩

/-- The literal that a finite double is written as. -/
def literal (x : Double) : NumberLiteral :=
  if x.isZero then ⟨x.isNegative, ['0'], some ['0'], none⟩
  else if -5 ≤ x.leading ∧ x.leading < 16 then
    positionalLiteral x.isNegative x.significantDigits x.leading
  else scientificLiteral x.isNegative x.significantDigits x.leading

section Text

variable {digits : List Char} {leading : Int} (negative : Bool)

theorem text_positionalLiteral :
    (positionalLiteral negative digits leading).text =
      (if negative then ['-'] else []) ++ positional digits leading := by
  unfold positionalLiteral positional NumberLiteral.text NumberLiteral.unsignedText
  split <;> simp [NumberLiteral.fractionText, NumberLiteral.exponentText]

theorem text_scientificLiteral :
    (scientificLiteral negative digits leading).text =
      (if negative then ['-'] else []) ++ scientific digits leading := by
  unfold scientificLiteral scientific NumberLiteral.text NumberLiteral.unsignedText
  dsimp only
  cases (digits.drop 1).isEmpty <;>
    simp [NumberLiteral.fractionText, NumberLiteral.exponentText]

/-- **A finite double is written as its literal.** -/
theorem text_literal (x : Double) : x.literal.text = x.finiteText := by
  unfold literal finiteText
  split
  · rfl
  · change _ = _ ++ (if -5 ≤ x.leading ∧ x.leading < 16 then
      positional x.significantDigits x.leading else scientific x.significantDigits x.leading)
    split
    · exact text_positionalLiteral _
    · exact text_scientificLiteral _

end Text

/-! ### The literal is proper -/

section Proper

variable {digits : List Char} {leading : Int} (negative : Bool)

theorem isDigits_replicate_append {n : Nat} (h : NumberLiteral.IsDigits digits) :
    NumberLiteral.IsDigits (List.replicate n '0' ++ digits) := by
  refine ⟨by simp [h.1], fun c hc => ?_⟩
  rcases List.mem_append.mp hc with hc | hc
  · rw [List.eq_of_mem_replicate hc]
    rfl
  · exact h.2 c hc

theorem isDigits_zero : NumberLiteral.IsDigits ['0'] :=
  ⟨List.cons_ne_nil _ _, List.forall_mem_singleton.mpr rfl⟩

/-- What is left of digits from a place on, or a zero. -/
theorem isDigits_drop (h : NumberLiteral.IsDigits digits) (n : Nat) :
    NumberLiteral.IsDigits (if (digits.drop n).isEmpty then ['0'] else digits.drop n) := by
  split
  · exact isDigits_zero
  · rename_i hne
    exact ⟨by simpa using hne, fun c hc => h.2 c (List.mem_of_mem_drop hc)⟩

theorem IsSignificant.take {n : Nat} (h : IsSignificant digits) (hn : n ≠ 0) :
    IsSignificant (digits.take n) := by
  obtain ⟨c, rest, rfl⟩ := List.exists_cons_of_ne_nil h.isDigits.1
  obtain ⟨n, rfl⟩ := Nat.exists_eq_succ_of_ne_zero hn
  refine ⟨⟨by simp, fun d hd => h.isDigits.2 d (List.mem_of_mem_take hd)⟩, ?_⟩
  simpa using h.head

theorem isProper_positionalLiteral (h : IsSignificant digits) :
    (positionalLiteral negative digits leading).IsProper := by
  unfold positionalLiteral
  split
  · refine ⟨isDigits_zero, .inl rfl, fun fraction hfraction => ?_, fun _ _ h => by cases h⟩
    obtain rfl := Option.some.inj hfraction
    exact isDigits_replicate_append h.isDigits
  · have htake := h.take (Nat.succ_ne_zero leading.toNat)
    refine ⟨⟨?_, fun c hc => ?_⟩, .inr ?_, fun fraction hfraction => ?_, fun _ _ h => by cases h⟩
    · simp [h.isDigits.1]
    · rcases List.mem_append.mp hc with hc | hc
      · exact htake.isDigits.2 c hc
      · rw [List.eq_of_mem_replicate hc]
        rfl
    · rw [List.head?_append_of_ne_nil _ htake.isDigits.1]
      exact htake.head
    · obtain rfl := Option.some.inj hfraction
      exact isDigits_drop h.isDigits _

theorem isProper_scientificLiteral (h : IsSignificant digits) :
    (scientificLiteral negative digits leading).IsProper := by
  have htake := h.take Nat.one_ne_zero
  refine ⟨htake.isDigits, .inr htake.head, fun fraction hfraction => ?_,
    fun sign exponent hexponent => ?_⟩
  · have hdrop := isDigits_drop h.isDigits 1
    unfold scientificLiteral at hfraction
    dsimp only at hfraction
    split at hfraction
    · cases hfraction
    · rename_i hne
      obtain rfl := Option.some.inj hfraction
      rwa [if_neg hne] at hdrop
  · obtain rfl := (Prod.mk.inj (Option.some.inj hexponent)).2
    exact ⟨Nat.toDigits_ne_nil, fun c hc => Numeral.isDigit_of_mem_toDigits hc⟩

/-- **A finite double is written as JSON allows.** -/
theorem isProper_literal (x : Double) : x.literal.IsProper := by
  unfold literal
  split
  · refine ⟨isDigits_zero, .inl rfl, fun fraction hfraction => ?_, fun _ _ h => by cases h⟩
    obtain rfl := Option.some.inj hfraction
    exact isDigits_zero
  · rename_i hzero
    have hsignificant := isSignificant_significantDigits (mt isZero_iff.mpr hzero)
    split
    · exact isProper_positionalLiteral _ hsignificant
    · exact isProper_scientificLiteral _ hsignificant

end Proper

/-! ### What the literal denotes -/

section Value

variable {digits : List Char} {leading : Int} (negative : Bool)

theorem magnitude_positionalLiteral :
    (positionalLiteral negative digits leading).magnitude =
      Numeral.number digits * 10 ^ (leading + 1 - digits.length) := by
  unfold positionalLiteral
  split
  · rename_i hleading
    have hnumber : Numeral.number (['0'] ++ (List.replicate (-leading - 1).toNat '0' ++ digits)) =
        Numeral.number digits := by
      rw [Numeral.number_append, Numeral.number_append, Numeral.number_replicate_zero]
      simp [show Numeral.number ['0'] = 0 from rfl]
    rw [NumberLiteral.magnitude, Option.getD_some, hnumber, NumberLiteral.shift]
    congr 2
    rw [List.length_append, List.length_replicate]
    push_cast
    omega
  · rename_i hleading
    obtain ⟨n, rfl⟩ := Int.eq_ofNat_of_zero_le (not_lt.mp hleading)
    rw [NumberLiteral.magnitude, Option.getD_some, NumberLiteral.shift]
    dsimp only
    rw [Int.toNat_natCast]
    by_cases hshort : digits.length ≤ n + 1
    · -- zeros are put up to the point, and one after it
      rw [List.drop_eq_nil_of_le hshort, List.take_of_length_le hshort, List.isEmpty_nil,
        if_pos rfl, Numeral.number_append, Numeral.number_append, Numeral.number_replicate_zero]
      have hexponent : ((n : Int) + 1 - digits.length) = ((n + 1 - digits.length : Nat) : Int) := by
        omega
      rw [hexponent, zpow_natCast]
      simp [show Numeral.number ['0'] = 0 from rfl]
    · have hdrop : (digits.drop (n + 1)).isEmpty = false := by
        simp
        omega
      rw [Nat.sub_eq_zero_of_le (by omega), List.replicate_zero, List.append_nil, hdrop,
        if_neg Bool.false_ne_true, List.take_append_drop, List.length_drop]
      congr 2
      omega

theorem magnitude_scientificLiteral (h : digits ≠ []) :
    (scientificLiteral negative digits leading).magnitude =
      Numeral.number digits * 10 ^ (leading + 1 - digits.length) := by
  obtain ⟨c, rest, rfl⟩ := List.exists_cons_of_ne_nil h
  have hshift : (scientificLiteral negative (c :: rest) leading).shift = leading := by
    simp only [scientificLiteral, NumberLiteral.shift, Numeral.number_toDigits, decide_eq_true_eq]
    split <;> omega
  have hfraction : (scientificLiteral negative (c :: rest) leading).fraction.getD [] = rest := by
    cases rest <;> rfl
  rw [NumberLiteral.magnitude, hshift, hfraction]
  congr 2
  rw [List.length_cons]
  push_cast
  ring

end Value

theorem isNegative_literal (x : Double) : x.literal.negative = x.isNegative := by
  unfold literal positionalLiteral
  split_ifs <;> rfl

theorem rounds_zero {x : Double} (h : x.magnitude = 0) : x.Rounds 0 := by
  have hsignificand : x.significand = 0 := by
    rw [significand, exponentBits_eq_div, fractionBits_eq_mod, h]
    rfl
  have hlower : x.lower = 0 := by
    rw [lower, lowQuarters, hsignificand]
    simp
  have hupper : 0 ≤ x.upper := by
    unfold upper
    positivity
  rw [Rounds, if_pos (by rw [hsignificand])]
  exact ⟨hlower.le, hupper⟩

theorem magnitude_literal_of_isZero {x : Double} (h : x.magnitude = 0) :
    x.literal.magnitude = 0 := by
  rw [literal, if_pos (isZero_iff.mpr h), NumberLiteral.magnitude]
  simp [show Numeral.number ['0', '0'] = 0 from rfl]

/-- **The literal of a double denotes its shortest decimal.** -/
theorem magnitude_literal {x : Double} (h : x.magnitude ≠ 0) :
    x.literal.magnitude = x.shortest.value := by
  rw [literal, if_neg (mt isZero_iff.mp h), ← number_significantDigits h]
  split
  · exact magnitude_positionalLiteral _
  · exact magnitude_scientificLiteral _ (isSignificant_significantDigits h).isDigits.1

/-- A double is rounded to from what its literal denotes. -/
theorem rounds_magnitude_literal (x : Double) : x.Rounds x.literal.magnitude := by
  by_cases h : x.magnitude = 0
  · rw [magnitude_literal_of_isZero h]
    exact rounds_zero h
  · rw [magnitude_literal h]
    exact rounds_shortest h

open Classical in
/-- The double that a literal rounds to, if that is a finite one. -/
noncomputable def ofLiteral? (n : NumberLiteral) : Option Double :=
  if h : ∃ x : Double, x.IsFinite ∧ x.isNegative = n.negative ∧ x.Rounds n.magnitude then
    some h.choose
  else none

/-- **A finite double is read back from its literal.** -/
theorem ofLiteral?_literal {x : Double} (h : x.IsFinite) : ofLiteral? x.literal = some x := by
  have hexists : ∃ y : Double, y.IsFinite ∧ y.isNegative = x.literal.negative ∧
      y.Rounds x.literal.magnitude :=
    ⟨x, h, (isNegative_literal x).symm, rounds_magnitude_literal x⟩
  obtain ⟨-, hsign, hrounds⟩ := hexists.choose_spec
  rw [ofLiteral?, dif_pos hexists, Option.some_inj]
  exact eq_of_magnitude_eq (hsign.trans (isNegative_literal x))
    (magnitude_eq_of_rounds hrounds (rounds_magnitude_literal x))

end Double

end Telemetry
