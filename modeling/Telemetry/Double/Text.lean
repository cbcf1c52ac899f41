import Telemetry.Double.Shortest

/-!
# Doubles as text

A finite double is written with the digits of its shortest decimal. Magnitudes from `10 ^ -5` up
to but not including `10 ^ 16`, and zero, are written positionally and always with a point; all
others with one digit before the point and a signed exponent, without padding.
-/

namespace Telemetry.Double

/-- Digits without the zeros at their end, but at least one digit. -/
def withoutTrailingZeros (digits : List Char) : List Char :=
  match (digits.reverse.dropWhile (· == '0')).reverse with
  | [] => ['0']
  | kept => kept

/-- Positional notation: the leading digit stands at `10 ^ leading`. -/
def positional (digits : List Char) (leading : Int) : List Char :=
  if leading < 0 then
    '0' :: '.' :: List.replicate (-leading - 1).toNat '0' ++ digits
  else
    let whole := leading.toNat + 1
    let fraction := digits.drop whole
    digits.take whole ++ List.replicate (whole - digits.length) '0' ++
      '.' :: (if fraction.isEmpty then ['0'] else fraction)

/-- Scientific notation: the leading digit stands at `10 ^ leading`. -/
def scientific (digits : List Char) (leading : Int) : List Char :=
  let fraction := digits.drop 1
  digits.take 1 ++ (if fraction.isEmpty then [] else '.' :: fraction) ++
    'e' :: (if leading < 0 then '-' else '+') :: Nat.toDigits 10 leading.natAbs

/-- The magnitude of a finite double other than zero. -/
def magnitudeText (x : Double) : List Char :=
  let decimal := x.shortest
  let all := Nat.toDigits 10 decimal.digits
  let leading := decimal.exponent + all.length - 1
  let digits := withoutTrailingZeros all
  if -5 ≤ leading ∧ leading < 16 then positional digits leading else scientific digits leading

/-- A finite double as decimal text. -/
def finiteText (x : Double) : List Char :=
  (if x.isNegative then ['-'] else []) ++ (if x.isZero then ['0', '.', '0'] else x.magnitudeText)

end Telemetry.Double
