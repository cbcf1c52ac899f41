import Telemetry.Double.Basic

/-!
# The shortest decimal that reads back

Every real in a certain interval around a double rounds to it; the ends belong to the interval
exactly if the significand is even. Among the decimals in the interval `shortest` chooses one with
the fewest digits, of those the nearest to the double, and on a tie the one with an even last
digit. All comparisons are between natural numbers: a power of two and a power of ten are cleared
from both sides.
-/

namespace Telemetry

/-- The decimal `digits * 10 ^ exponent`. -/
structure Decimal where
  digits : Nat
  exponent : Int
  deriving DecidableEq, Repr

namespace Double

/-- A power of two. -/
def twoTo (exponent : Nat) : Nat :=
  Nat.pow 2 exponent

/-- A power of ten. -/
def tenTo (exponent : Nat) : Nat :=
  Nat.pow 10 exponent

/-- A double against the decimal grid `10 ^ exponent`. After clearing denominators a point `p` of
the grid lies at `p * step`, the double at `center`, and the reals that round to it lie between
`low` and `high`. -/
structure Grid where
  step : Nat
  center : Nat
  low : Nat
  high : Nat
  closed : Bool

/-- The grid of `10 ^ exponent` around a finite double, in quarters of its last binary place. -/
def grid (x : Double) (exponent : Int) : Grid :=
  let unit := twoTo (x.scale - 2).toNat * tenTo (-exponent).toNat
  { step := tenTo exponent.toNat * twoTo (2 - x.scale).toNat
    center := 4 * x.significand * unit
    low := (4 * x.significand - if x.isBinadeStart then 1 else 2) * unit
    high := (4 * x.significand + 2) * unit
    closed := x.significand % 2 == 0 }

namespace Grid

/-- The grid point `p` rounds to the double. -/
def holds (g : Grid) (p : Nat) : Bool :=
  if g.closed then decide (g.low ≤ p * g.step ∧ p * g.step ≤ g.high)
  else decide (g.low < p * g.step ∧ p * g.step < g.high)

/-- How far the grid point `p` is from the double. -/
def distance (g : Grid) (p : Nat) : Nat :=
  (p * g.step - g.center) + (g.center - p * g.step)

/-- The best grid point that rounds to the double, if one of its two neighbours does. -/
def best? (g : Grid) : Option Nat :=
  let below := g.center / g.step
  let above := below + 1
  match g.holds below, g.holds above with
  -- Both neighbours read back, so the nearer one is taken.
  | true, true =>
    if g.distance below < g.distance above then some below
    else if g.distance above < g.distance below then some above
    else if below % 2 = 0 then some below else some above
  | true, false => some below
  | false, true => some above
  | false, false => none

end Grid

/-- The place of the leading decimal digit of a finite double other than zero: the largest `e`
with `10 ^ e ≤ |x|`. Scaling by `10 ^ 400` makes every double at least one. -/
def leadingPlace (x : Double) : Int :=
  let scaled := x.significand * tenTo 400 * twoTo x.scale.toNat / twoTo (-x.scale).toNat
  ((Nat.toDigits 10 scaled).length : Int) - 401

/-- The first of the given numbers of digits whose grid has a point that rounds to the double. -/
def firstHit (x : Double) (leading : Int) : List Nat → Option Decimal
  | [] => none
  | count :: more =>
    let exponent := leading - count + 1
    match (x.grid exponent).best? with
    | some p => some ⟨p, exponent⟩
    | none => firstHit x leading more

/-- The shortest decimal that rounds to the magnitude of a finite double other than zero.
Seventeen digits always suffice. -/
def shortest (x : Double) : Decimal :=
  (x.firstHit x.leadingPlace ((List.range 17).map (· + 1))).getD ⟨0, 0⟩

end Double

end Telemetry
