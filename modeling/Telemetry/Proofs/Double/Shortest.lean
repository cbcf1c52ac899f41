import Telemetry.Proofs.Double.Rounding
import Telemetry.Proofs.Numeral

/-!
# The shortest decimal rounds to its double

A grid compares natural numbers where the interval of a double compares rationals; both are the
same up to a common factor (`holds_grid_iff`).  With seventeen digits the grid is so fine that one
of the two neighbours of the double is in the interval (`best?_grid_ne_none`), so the search for the
shortest decimal always hits (`rounds_shortest`).
-/

namespace Telemetry

/-- The number that a decimal denotes. -/
def Decimal.value (d : Decimal) : ℚ :=
  d.digits * 10 ^ d.exponent

namespace Double

/-! ### Grids -/

namespace Grid

variable {g : Grid} {p : Nat}

theorem holds_of_lt (hlow : g.low < p * g.step) (hhigh : p * g.step < g.high) :
    g.holds p = true := by
  unfold holds
  split
  · exact decide_eq_true ⟨hlow.le, hhigh.le⟩
  · exact decide_eq_true ⟨hlow, hhigh⟩

theorem holds_of_best? (h : g.best? = some p) : g.holds p = true := by
  unfold best? at h
  dsimp only at h
  split at h
  · rename_i hbelow habove
    split_ifs at h <;> cases h <;> assumption
  · rename_i hbelow habove
    cases h
    exact hbelow
  · rename_i hbelow habove
    cases h
    exact habove
  · cases h

theorem best?_ne_none (h : g.holds (g.center / g.step) = true ∨
    g.holds (g.center / g.step + 1) = true) : g.best? ≠ none := by
  intro hnone
  unfold best? at hnone
  dsimp only at hnone
  split at hnone
  · split_ifs at hnone
  · cases hnone
  · cases hnone
  · simp_all

/-- Where the interval is wider on each side than half a step, it has a point of the grid in it. -/
theorem best?_ne_none_of_fine (width : Nat) (hpos : 0 < g.step) (hlow : g.low + width ≤ g.center)
    (hhigh : g.center + width ≤ g.high) (hfine : g.step < 2 * width) : g.best? ≠ none := by
  apply best?_ne_none
  have hsplit := Nat.div_add_mod' g.center g.step
  have hrest := Nat.mod_lt g.center hpos
  by_cases hnear : 2 * (g.center % g.step) ≤ g.step
  · left
    apply holds_of_lt <;> omega
  · right
    apply holds_of_lt <;> rw [Nat.add_mul, Nat.one_mul] <;> omega

end Grid

/-! ### The grid of a double -/

theorem twoTo_eq (n : Nat) : twoTo n = 2 ^ n := rfl

theorem tenTo_eq (n : Nat) : tenTo n = 10 ^ n := rfl

/-- The factor that clears the denominators of a grid. -/
def clearing (x : Double) (exponent : Int) : ℚ :=
  10 ^ (-exponent).toNat * 2 ^ (2 - x.scale).toNat

theorem clearing_pos (x : Double) (exponent : Int) : 0 < x.clearing exponent := by
  unfold clearing
  positivity

/-- A power with an integer exponent, without its denominator. -/
theorem pow_toNat {b : ℚ} (hb : b ≠ 0) (e : Int) : b ^ e.toNat = b ^ e * b ^ (-e).toNat := by
  rw [← zpow_natCast, ← zpow_natCast, ← zpow_add₀ hb]
  congr 1
  omega

/-- The unit of a grid: a quarter of the last binary place of the double. -/
def gridUnit (x : Double) (exponent : Int) : Nat :=
  twoTo (x.scale - 2).toNat * tenTo (-exponent).toNat

theorem cast_gridUnit (x : Double) (exponent : Int) :
    (x.gridUnit exponent : ℚ) = 2 ^ (x.scale - 2) * x.clearing exponent := by
  have hpow := pow_toNat two_ne_zero (x.scale - 2)
  rw [neg_sub] at hpow
  simp only [gridUnit, twoTo_eq, tenTo_eq, Nat.cast_mul, Nat.cast_pow, Nat.cast_ofNat, hpow,
    clearing]
  ring

theorem cast_step_grid (x : Double) (exponent : Int) :
    ((x.grid exponent).step : ℚ) = 10 ^ exponent * x.clearing exponent := by
  have hpow := pow_toNat (b := 10) (by norm_num) exponent
  simp only [grid, twoTo_eq, tenTo_eq, Nat.cast_mul, Nat.cast_pow, Nat.cast_ofNat, hpow,
    clearing]
  ring

theorem cast_low_grid (x : Double) (exponent : Int) :
    ((x.grid exponent).low : ℚ) = x.lower * x.clearing exponent := by
  have hlow : (x.grid exponent).low = x.lowQuarters * x.gridUnit exponent := rfl
  rw [hlow, Nat.cast_mul, cast_gridUnit, lower, mul_assoc]

theorem cast_high_grid (x : Double) (exponent : Int) :
    ((x.grid exponent).high : ℚ) = x.upper * x.clearing exponent := by
  have hhigh : (x.grid exponent).high = (4 * x.significand + 2) * x.gridUnit exponent := rfl
  rw [hhigh, Nat.cast_mul, cast_gridUnit, upper, mul_assoc]

/-- **The grid compares what the interval compares.** -/
theorem holds_grid_iff {x : Double} {exponent : Int} {p : Nat} :
    (x.grid exponent).holds p = true ↔ x.Rounds (Decimal.value ⟨p, exponent⟩) := by
  have hpos := x.clearing_pos exponent
  have hpoint : ((p * (x.grid exponent).step : Nat) : ℚ) =
      Decimal.value ⟨p, exponent⟩ * x.clearing exponent := by
    rw [Nat.cast_mul, cast_step_grid, Decimal.value, mul_assoc]
  have hclosed : (x.grid exponent).closed = true ↔ x.significand % 2 = 0 := by
    simp [grid]
  unfold Grid.holds Rounds
  by_cases heven : x.significand % 2 = 0
  · rw [if_pos (hclosed.mpr heven), if_pos heven, decide_eq_true_iff, ← Nat.cast_le (α := ℚ),
      ← Nat.cast_le (α := ℚ), hpoint, cast_low_grid, cast_high_grid, mul_le_mul_iff_left₀ hpos,
      mul_le_mul_iff_left₀ hpos]
  · rw [if_neg (fun h => heven (hclosed.mp h)), if_neg heven, decide_eq_true_iff,
      ← Nat.cast_lt (α := ℚ), ← Nat.cast_lt (α := ℚ), hpoint, cast_low_grid, cast_high_grid,
      mul_lt_mul_iff_left₀ hpos, mul_lt_mul_iff_left₀ hpos]

/-! ### The leading place -/

/-- A double times `10 ^ 400`, rounded down.  The leading place is read off its digits. -/
def scaledUp (x : Double) : Nat :=
  x.significand * tenTo 400 * twoTo x.scale.toNat / twoTo (-x.scale).toNat

theorem leadingPlace_eq (x : Double) :
    x.leadingPlace = ((Nat.toDigits 10 x.scaledUp).length : Int) - 401 := rfl

/-- The smallest double is above `10 ^ (-400)`. -/
theorem scaledUp_ne_zero {x : Double} (h : x.magnitude ≠ 0) : x.scaledUp ≠ 0 := by
  have hscale : (-x.scale).toNat ≤ 1074 := by
    unfold scale
    omega
  have hbase (n : Nat) : 2 ^ (3 * n) ≤ 10 ^ n := by
    rw [Nat.pow_mul]
    exact Nat.pow_le_pow_left (by norm_num) n
  have hpow : 2 ^ (-x.scale).toNat ≤ 10 ^ 400 :=
    (Nat.pow_le_pow_right (by norm_num) (by omega)).trans (hbase 400)
  have hten : 10 ^ 400 ≤ x.significand * 10 ^ 400 * 2 ^ x.scale.toNat :=
    (Nat.le_mul_of_pos_left _ (significand_pos h)).trans
      (Nat.le_mul_of_pos_right _ (Nat.two_pow_pos _))
  rw [scaledUp, tenTo_eq, twoTo_eq, twoTo_eq]
  exact (Nat.div_pos (hpow.trans hten) (Nat.two_pow_pos _)).ne'

theorem scaledUp_le (x : Double) :
    (x.scaledUp : ℚ) ≤ x.significand * 2 ^ x.scale * 10 ^ 400 := by
  have hmul : x.scaledUp * 2 ^ (-x.scale).toNat ≤
      x.significand * 10 ^ 400 * 2 ^ x.scale.toNat := by
    rw [scaledUp, tenTo_eq, twoTo_eq, twoTo_eq]
    exact Nat.div_mul_le_self _ _
  have hcast : (x.scaledUp : ℚ) * 2 ^ (-x.scale).toNat ≤
      x.significand * 10 ^ 400 * 2 ^ x.scale.toNat := by
    exact_mod_cast hmul
  rw [pow_toNat two_ne_zero x.scale] at hcast
  have hpos : (0 : ℚ) < 2 ^ (-x.scale).toNat := by positivity
  refine le_of_mul_le_mul_right (hcast.trans_eq ?_) hpos
  generalize (10 : ℚ) ^ 400 = shift
  ring

/-- The leading place is not above the double. -/
theorem leadingPlace_le {x : Double} (h : x.magnitude ≠ 0) :
    (10 : ℚ) ^ x.leadingPlace ≤ x.significand * 2 ^ x.scale := by
  have hdigits : (10 : ℚ) ^ ((Nat.toDigits 10 x.scaledUp).length - 1) ≤ x.scaledUp := by
    exact_mod_cast Numeral.pow_length_toDigits_le (scaledUp_ne_zero h)
  have hplace : (10 : ℚ) ^ x.leadingPlace * 10 ^ 400 =
      10 ^ ((Nat.toDigits 10 x.scaledUp).length - 1) := by
    have hlength : (Nat.toDigits 10 x.scaledUp).length ≠ 0 := by simp
    rw [leadingPlace_eq, ← zpow_natCast, ← zpow_natCast, ← zpow_add₀ (by norm_num)]
    congr 1
    push_cast
    omega
  refine le_of_mul_le_mul_right ?_ (by positivity : (0 : ℚ) < 10 ^ 400)
  rw [hplace]
  exact hdigits.trans x.scaledUp_le

/-! ### Seventeen digits suffice -/

/-- How many quarters of the last binary place the interval reaches down. -/
def reach (x : Double) : Nat :=
  if x.isBinadeStart then 1 else 2

theorem reach_le (x : Double) : x.reach ≤ 2 := by
  unfold reach
  split <;> omega

/-- Where the interval reaches less far down, the significand is the smallest one. -/
theorem significand_lt_reach (x : Double) : x.significand < x.reach * (5 * 10 ^ 15) := by
  have hlt := x.significand_lt
  unfold reach
  split
  · rename_i hstart
    simp only [isBinadeStart, Bool.and_eq_true, beq_iff_eq, decide_eq_true_eq] at hstart
    rw [significand, if_neg (by omega), hstart.1, fractions]
    norm_num
  · omega

/-- The seventeenth digit counts less than the interval is wide. -/
theorem seventeenth_place_lt {x : Double} (h : x.magnitude ≠ 0) :
    (10 : ℚ) ^ (x.leadingPlace - 16) < 2 * x.reach * 2 ^ (x.scale - 2) := by
  have hleading := leadingPlace_le h
  have hten : (10 : ℚ) ^ x.leadingPlace = 10 ^ (x.leadingPlace - 16) * 10 ^ 16 := by
    rw [← zpow_natCast, ← zpow_add₀ (by norm_num)]
    norm_num
  have htwo : (2 : ℚ) ^ x.scale = 4 * 2 ^ (x.scale - 2) := by
    rw [zpow_sub₀ two_ne_zero]
    norm_num
    ring
  have hwide : (x.significand : ℚ) < x.reach * (5 * 10 ^ 15) := by
    exact_mod_cast x.significand_lt_reach
  have hpos : (0 : ℚ) < 2 ^ (x.scale - 2) := by positivity
  rw [hten, htwo] at hleading
  nlinarith

/-- **On the grid of seventeen digits a neighbour of the double rounds to it.** -/
theorem best?_grid_ne_none {x : Double} (h : x.magnitude ≠ 0) :
    (x.grid (x.leadingPlace - 16)).best? ≠ none := by
  have hstep := seventeenth_place_lt h
  have hreach := x.reach_le
  have hsignificand := significand_pos h
  generalize x.leadingPlace - 16 = e at hstep ⊢
  have hcenter : (x.grid e).center = 4 * x.significand * x.gridUnit e := rfl
  have hlow : (x.grid e).low = (4 * x.significand - x.reach) * x.gridUnit e := rfl
  have hhigh : (x.grid e).high = (4 * x.significand + 2) * x.gridUnit e := rfl
  refine Grid.best?_ne_none_of_fine (x.reach * x.gridUnit e) ?_ ?_ ?_ ?_
  · exact Nat.mul_pos (Nat.pow_pos (by norm_num)) (Nat.two_pow_pos _)
  · rw [hlow, hcenter, ← Nat.add_mul]
    exact Nat.mul_le_mul_right _ (by omega)
  · rw [hhigh, hcenter, ← Nat.add_mul]
    exact Nat.mul_le_mul_right _ (by omega)
  · have hcast : ((x.grid e).step : ℚ) < (2 * (x.reach * x.gridUnit e) : Nat) := by
      push_cast
      rw [cast_step_grid, cast_gridUnit, ← mul_assoc, ← mul_assoc]
      exact mul_lt_mul_of_pos_right hstep (x.clearing_pos e)
    exact_mod_cast hcast

/-! ### The search -/

/-- The search hits if one of the grids it looks at does. -/
theorem exists_of_firstHit {x : Double} {leading : Int} {counts : List Nat}
    (h : ∃ count ∈ counts, (x.grid (leading - count + 1)).best? ≠ none) :
    ∃ d, x.firstHit leading counts = some d ∧ x.Rounds d.value := by
  induction counts with
  | nil => simp at h
  | cons count more ih =>
    rw [firstHit]
    split
    · rename_i p hp
      exact ⟨_, rfl, holds_grid_iff.mp (Grid.holds_of_best? hp)⟩
    · rename_i hmiss
      rcases h with ⟨other, hother, hbest⟩
      rcases List.mem_cons.mp hother with rfl | hother
      · exact absurd hmiss hbest
      · exact ih ⟨other, hother, hbest⟩

/-- **The shortest decimal rounds to its double.** -/
theorem rounds_shortest {x : Double} (h : x.magnitude ≠ 0) : x.Rounds x.shortest.value := by
  obtain ⟨d, hd, hrounds⟩ : ∃ d, x.firstHit x.leadingPlace ((List.range 17).map (· + 1)) = some d ∧
      x.Rounds d.value := by
    refine exists_of_firstHit ⟨17, by decide, ?_⟩
    have hexponent : x.leadingPlace - (17 : Nat) + 1 = x.leadingPlace - 16 := by
      push_cast
      ring
    rw [hexponent]
    exact best?_grid_ne_none h
  rw [shortest, hd]
  exact hrounds

theorem digits_shortest_ne_zero {x : Double} (h : x.magnitude ≠ 0) : x.shortest.digits ≠ 0 := by
  intro hzero
  have hpos := (rounds_shortest h).pos h
  rw [Decimal.value, hzero, Nat.cast_zero, zero_mul] at hpos
  exact absurd hpos (lt_irrefl 0)

end Double

end Telemetry
