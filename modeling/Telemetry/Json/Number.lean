import Telemetry.Numeral
import Telemetry.Double.Basic
import Telemetry.Json.Tree

/-!
# The value of a number literal

A literal without point and exponent is an integer if it fits 64 bits, signed or unsigned; minus
zero and longer ones are doubles. A double is read the quick way: the digits are gathered into a
64-bit significand as long as they fit, and the significand is multiplied or divided once by a
power of ten. The outcome may be off by a last place from the nearest double; a literal beyond the
range of doubles has no value.
-/

namespace Telemetry

namespace NumberLiteral

/-- The integer that a literal denotes, if it has no point and no exponent and fits 64 bits. -/
def int? (n : NumberLiteral) : Option Int :=
  if n.fraction.isSome ∨ n.exponent.isSome then none
  else
    let magnitude := Numeral.number n.whole
    if n.negative then
      if magnitude = 0 ∨ Int64.minValue.toInt.natAbs < magnitude then none else some (-(magnitude : Int))
    else if UInt64.size ≤ magnitude then none else some magnitude

/-- Gathers digits before the point as long as the significand fits 64 bits, and counts the rest. -/
def gatherWhole (significand : Nat) : List Char → Nat × Int
  | [] => (significand, 0)
  | c :: rest =>
    let next := 10 * significand + Numeral.value c
    if next < UInt64.size then gatherWhole next rest else (significand, rest.length + 1)

/-- Gathers digits after the point as long as the significand fits 64 bits; the exponent goes down
by one for each. -/
def gatherFraction (significand : Nat) (exponent : Int) : List Char → Nat × Int
  | [] => (significand, exponent)
  | c :: rest =>
    let next := 10 * significand + Numeral.value c
    if next < UInt64.size then gatherFraction next (exponent - 1) rest else (significand, exponent)

/-- The nearest double to a power of ten. -/
def powerOfTen (n : Nat) : Float :=
  Float.ofScientific 1 false n

/-- `x * 10 ^ exponent` by one multiplication or division. An exponent below what the table of
powers reaches is first brought near by dividing; `fuel` bounds how often. A product beyond the
range is none. -/
def scaled : Nat → Float → Int → Option Float
  | 0, x, _ => some x
  | fuel + 1, x, exponent =>
    if exponent.natAbs ≤ 308 then
      if 0 ≤ exponent then
        let product := x * powerOfTen exponent.toNat
        if product.isInf then none else some product
      else some (x / powerOfTen exponent.natAbs)
    -- Here the exponent is beyond the table of powers.
    else if x == 0 then some x
    else if 0 ≤ exponent then none
    else scaled fuel (x / powerOfTen 308) (exponent + 308)

/-- Exponents are kept within 32 bits. -/
def clamp (exponent : Int) : Int :=
  max Int32.minValue.toInt (min Int32.maxValue.toInt exponent)

/-- The magnitude of a literal as a double, if it is within the range of doubles. -/
def magnitude? (n : NumberLiteral) : Option Float :=
  let (significand, exponent) := gatherWhole 0 n.whole
  let (significand, exponent) := gatherFraction significand exponent (n.fraction.getD [])
  let x := significand.toUInt64.toFloat
  match n.exponent with
  | none => scaled 8 x exponent
  | some (negative, digits) =>
    let shift := Numeral.number digits
    -- An exponent of more than 31 bits decides alone, whatever the digits before it say.
    if Int32.maxValue.toInt < shift then
      if significand ≠ 0 ∧ ¬negative then none else some 0
    else scaled 8 x (clamp (if negative then exponent - shift else exponent + shift))

/-- The double that a literal denotes, if it is within the range of doubles. -/
def double? (n : NumberLiteral) : Option Double :=
  (magnitude? n).map fun x => ⟨(if n.negative then -x else x).toBits⟩

end NumberLiteral

end Telemetry
