import Mathlib.Algebra.Order.Field.Power
import Mathlib.Algebra.Order.Ring.Rat
import Mathlib.Tactic.Linarith
import Mathlib.Tactic.Positivity
import Mathlib.Tactic.Ring
import Telemetry.Double.Shortest

/-!
# The reals that round to a double

Around every magnitude lies the interval of the reals that round to it (`Double.Rounds`).  The
upper end of one interval is the lower end of the next (`lower_eq_upper`), and of two magnitudes
that follow each other only one has an even significand.  So no real rounds to two magnitudes
(`magnitude_eq_of_rounds`).
-/

namespace Telemetry.Double

/-! ### Magnitudes -/

/-- Neither a NaN nor an infinity. -/
def IsFinite (x : Double) : Prop :=
  x.exponentBits ≠ 2047

instance (x : Double) : Decidable x.IsFinite :=
  inferInstanceAs (Decidable (_ ≠ _))

/-- The bits of a double without its sign. -/
def magnitude (x : Double) : Nat :=
  x.bits.toNat % (exponents * fractions)

/-- The double with the given magnitude and no sign. -/
def ofMagnitude (n : Nat) : Double :=
  ⟨.ofNat n⟩

theorem magnitude_lt (x : Double) : x.magnitude < exponents * fractions :=
  Nat.mod_lt _ (by decide)

theorem magnitude_ofMagnitude {n : Nat} (h : n < exponents * fractions) :
    (ofMagnitude n).magnitude = n := by
  have hsize : n < UInt64.size := lt_trans h (by decide)
  rw [magnitude, ofMagnitude, UInt64.toNat_ofNat_of_lt' hsize, Nat.mod_eq_of_lt h]

/-- Sign and magnitude determine a double. -/
theorem eq_of_magnitude_eq {x y : Double} (hsign : x.isNegative = y.isNegative)
    (h : x.magnitude = y.magnitude) : x = y := by
  have hx := x.bits.toNat_lt
  have hy := y.bits.toNat_lt
  rw [isNegative, isNegative, decide_eq_decide] at hsign
  simp only [magnitude, exponents, fractions] at hsign h
  have hbits : x.bits.toNat = y.bits.toNat := by omega
  cases x
  cases y
  exact congrArg mk (UInt64.toNat_inj.mp hbits)

theorem exponentBits_eq_div (x : Double) : x.exponentBits = x.magnitude / fractions := by
  simp only [exponentBits, magnitude, exponents, fractions]
  omega

theorem fractionBits_eq_mod (x : Double) : x.fractionBits = x.magnitude % fractions := by
  simp only [fractionBits, magnitude, exponents, fractions]
  omega

theorem isZero_iff {x : Double} : x.isZero = true ↔ x.magnitude = 0 := by
  rw [isZero, exponentBits_eq_div, fractionBits_eq_mod, fractions]
  simp only [Bool.and_eq_true, beq_iff_eq]
  omega

theorem significand_pos {x : Double} (h : x.magnitude ≠ 0) : 0 < x.significand := by
  rw [significand, exponentBits_eq_div, fractionBits_eq_mod, fractions]
  split <;> omega

theorem significand_lt (x : Double) : x.significand < 2 ^ 53 := by
  rw [significand, exponentBits_eq_div, fractionBits_eq_mod, fractions]
  split <;> omega

/-- Significand and magnitude are even at the same time. -/
theorem significand_mod_two (x : Double) : x.significand % 2 = x.magnitude % 2 := by
  rw [significand, exponentBits_eq_div, fractionBits_eq_mod, fractions]
  split <;> omega

/-! ### Intervals -/

/-- The lower end of the interval in quarters of the last binary place. -/
def lowQuarters (x : Double) : Nat :=
  4 * x.significand - if x.isBinadeStart then 1 else 2

/-- The lower end of the reals that round to the magnitude of a double. -/
def lower (x : Double) : ℚ :=
  x.lowQuarters * 2 ^ (x.scale - 2)

/-- The upper end of the reals that round to the magnitude of a double. -/
def upper (x : Double) : ℚ :=
  (4 * x.significand + 2 : Nat) * 2 ^ (x.scale - 2)

/-- The real rounds to the magnitude of the double.  The ends of the interval do so if the
significand is even. -/
def Rounds (x : Double) (q : ℚ) : Prop :=
  if x.significand % 2 = 0 then x.lower ≤ q ∧ q ≤ x.upper else x.lower < q ∧ q < x.upper

theorem Rounds.lower_le {x : Double} {q : ℚ} (h : x.Rounds q) : x.lower ≤ q := by
  unfold Rounds at h
  split at h
  · exact h.1
  · exact h.1.le

theorem Rounds.le_upper {x : Double} {q : ℚ} (h : x.Rounds q) : q ≤ x.upper := by
  unfold Rounds at h
  split at h
  · exact h.2
  · exact h.2.le

theorem Rounds.even_of_eq_lower {x : Double} {q : ℚ} (h : x.Rounds q) (hq : q = x.lower) :
    x.significand % 2 = 0 := by
  unfold Rounds at h
  split at h
  · assumption
  · exact absurd hq h.1.ne'

theorem Rounds.even_of_eq_upper {x : Double} {q : ℚ} (h : x.Rounds q) (hq : q = x.upper) :
    x.significand % 2 = 0 := by
  unfold Rounds at h
  split at h
  · assumption
  · exact absurd hq h.2.ne

theorem lower_lt_upper (x : Double) : x.lower < x.upper := by
  have hquarters : x.lowQuarters < 4 * x.significand + 2 := by
    unfold lowQuarters
    omega
  exact mul_lt_mul_of_pos_right (by exact_mod_cast hquarters) (by positivity)

/-- Only zero is rounded to from zero. -/
theorem Rounds.pos {x : Double} {q : ℚ} (h : x.Rounds q) (hx : x.magnitude ≠ 0) : 0 < q := by
  have hquarters : 0 < x.lowQuarters := by
    have := significand_pos hx
    unfold lowQuarters
    split <;> omega
  have hlower : 0 < x.lower := mul_pos (by exact_mod_cast hquarters) (by positivity)
  exact hlower.trans_le h.lower_le

/-- The next magnitude has the same scale, or it begins a binade. -/
theorem lowQuarters_succ {x y : Double} (h : y.magnitude = x.magnitude + 1) :
    (y.scale = x.scale ∧ y.lowQuarters = 4 * x.significand + 2) ∨
      (y.scale = x.scale + 1 ∧ 2 * y.lowQuarters = 4 * x.significand + 2) := by
  simp only [scale, lowQuarters, significand, isBinadeStart, exponentBits_eq_div,
    fractionBits_eq_mod, h, fractions, Bool.and_eq_true, beq_iff_eq, decide_eq_true_eq]
  generalize x.magnitude = n
  split_ifs <;> omega

/-- **Intervals meet.**  Where a binade begins the last binary place is twice as large as before,
but the interval reaches only a quarter of it down. -/
theorem lower_eq_upper {x y : Double} (h : y.magnitude = x.magnitude + 1) : y.lower = x.upper := by
  unfold lower upper
  rcases lowQuarters_succ h with ⟨hscale, hquarters⟩ | ⟨hscale, hquarters⟩
  · rw [hscale, hquarters]
  · have hdouble : (2 : ℚ) ^ (y.scale - 2) = 2 * 2 ^ (x.scale - 2) := by
      rw [hscale, add_sub_right_comm, zpow_add_one₀ two_ne_zero, mul_comm]
    rw [hdouble, ← hquarters]
    push_cast
    ring

/-- The interval of a larger magnitude lies above. -/
theorem upper_le_lower {x y : Double} (h : x.magnitude < y.magnitude) :
    x.upper ≤ y.lower ∧ (x.magnitude + 1 ≠ y.magnitude → x.upper < y.lower) := by
  obtain ⟨k, hk⟩ := Nat.exists_eq_add_of_lt h
  induction k generalizing y with
  | zero =>
    rw [lower_eq_upper hk]
    exact ⟨le_rfl, fun hne => absurd hk.symm hne⟩
  | succ k ih =>
    -- the double right below the larger one
    have hlt : x.magnitude + k + 1 < exponents * fractions := by
      have := y.magnitude_lt
      omega
    have hbelow := magnitude_ofMagnitude hlt
    have hle := (ih (y := ofMagnitude (x.magnitude + k + 1)) (by omega) hbelow).1
    have hlt : x.upper < y.lower := by
      rw [lower_eq_upper (x := ofMagnitude (x.magnitude + k + 1)) (by omega)]
      exact hle.trans_lt (lower_lt_upper _)
    exact ⟨hlt.le, fun _ => hlt⟩

theorem not_rounds_of_magnitude_lt {x y : Double} {q : ℚ} (h : x.magnitude < y.magnitude)
    (hx : x.Rounds q) : ¬ y.Rounds q := by
  intro hy
  obtain ⟨hle, hlt⟩ := upper_le_lower h
  have hup := hx.le_upper
  have hlow := hy.lower_le
  -- the real is where two intervals meet, but one of them is open there
  have hnext : x.magnitude + 1 = y.magnitude := by
    by_contra hne
    exact absurd (hlt hne) (not_lt.mpr (hlow.trans hup))
  have hevenx := hx.even_of_eq_upper (le_antisymm hup (hle.trans hlow))
  have heveny := hy.even_of_eq_lower (le_antisymm (hup.trans hle) hlow)
  rw [significand_mod_two] at hevenx heveny
  omega

/-- **No real rounds to two magnitudes.** -/
theorem magnitude_eq_of_rounds {x y : Double} {q : ℚ} (hx : x.Rounds q) (hy : y.Rounds q) :
    x.magnitude = y.magnitude := by
  rcases lt_trichotomy x.magnitude y.magnitude with h | h | h
  · exact absurd hy (not_rounds_of_magnitude_lt h hx)
  · exact h
  · exact absurd hx (not_rounds_of_magnitude_lt h hy)

end Telemetry.Double
