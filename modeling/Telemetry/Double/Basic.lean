/-!
# Doubles

A double is kept as its 64 bits, so that nothing about it is lost: the payload of a NaN and the
sign of a zero stay observable. This module splits the bits into sign, exponent and fraction and
compares doubles as IEEE 754 does.
-/

namespace Telemetry

/-- An IEEE 754 binary64 number, given by its bits. -/
structure Double where
  bits : UInt64
  deriving DecidableEq, Repr

namespace Double

/-- Positive zero. -/
def zero : Double := ⟨0⟩

/-- The number of values that the 52 fraction bits take. -/
def fractions : Nat := 0x10000000000000

/-- The number of values that the eleven exponent bits take. -/
def exponents : Nat := 2048

/-- The sign bit is set. -/
def isNegative (x : Double) : Bool :=
  decide (exponents * fractions ≤ x.bits.toNat)

/-- The eleven exponent bits. -/
def exponentBits (x : Double) : Nat :=
  x.bits.toNat / fractions % exponents

/-- The 52 fraction bits. -/
def fractionBits (x : Double) : Nat :=
  x.bits.toNat % fractions

/-- Not a number: all exponent bits are set and some fraction bit is. -/
def isNaN (x : Double) : Bool :=
  x.exponentBits == 2047 && x.fractionBits != 0

/-- One of the two infinities. -/
def isInfinite (x : Double) : Bool :=
  x.exponentBits == 2047 && x.fractionBits == 0

/-- One of the two zeros. -/
def isZero (x : Double) : Bool :=
  x.exponentBits == 0 && x.fractionBits == 0

/-- The integer that scaled by `2 ^ scale` is the magnitude of a finite double. -/
def significand (x : Double) : Nat :=
  if x.exponentBits = 0 then x.fractionBits else fractions + x.fractionBits

/-- The power of two that the significand counts. -/
def scale (x : Double) : Int :=
  (max x.exponentBits 1 : Nat) - 1075

/-- The next smaller double of the same sign is only half as far away as the next larger one. -/
def isBinadeStart (x : Double) : Bool :=
  x.fractionBits == 0 && decide (1 < x.exponentBits)

/-- Equality as IEEE 754 has it: a NaN equals nothing and the two zeros are equal. -/
def ieeeEq (x y : Double) : Bool :=
  !x.isNaN && !y.isNaN && (x.bits == y.bits || (x.isZero && y.isZero))

end Double

end Telemetry
