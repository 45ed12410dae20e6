/-!
Double-precision numbers as data. A finite number is a sign and a whole number of units, a unit
being the smallest positive double, `2 ^ (-1074)`; so every comparison and every rounding is exact
arithmetic on naturals.
-/

namespace MetricAgent.Decimal

/-- The nearest natural to a quotient; of two equally near ones the even one. -/
def roundQuotient (num den : Nat) : Nat :=
  let q := num / den
  let r := num % den
  if 2 * r < den then q
  else if den < 2 * r then q + 1
  else q + q % 2

/-- A double-precision number, given by its 64 bits. -/
structure Double where
  bits : UInt64
  deriving DecidableEq, Inhabited

namespace Double

/-- The least significand of 53 bits, and the bits that are counted with an exponent, `2 ^ 52`. -/
def normalBound : Nat := 4503599627370496

/-- The weight of the sign bit, `2 ^ 63`. -/
def signBit : Nat := 9223372036854775808

/-- The bits of the least exponent that marks infinities and what is not a number. -/
def infinityBits : Nat := 2047 * normalBound

/-- The bits without the sign. -/
def magnitude (x : Double) : Nat := x.bits.toNat % signBit

/-- The sign bit. -/
def isNegative (x : Double) : Bool := signBit ≤ x.bits.toNat

def isFinite (x : Double) : Bool := x.magnitude < infinityBits

def isNaN (x : Double) : Bool := infinityBits < x.magnitude

/-- How often the unit is doubled to give the distance to the next number away from zero. -/
def scale (x : Double) : Nat := x.magnitude / normalBound - 1

/-- The distance from zero, in steps of `2 ^ scale` units. -/
def significand (x : Double) : Nat :=
  if x.magnitude < normalBound then x.magnitude else normalBound + x.magnitude % normalBound

/-- The distance of a finite number from zero, in units. -/
def units (x : Double) : Nat := x.significand * Nat.pow 2 x.scale

/-- How many units make one. -/
def unitsPerOne : Nat := Nat.pow 2 1074

/-- A number of a given sign and magnitude bits. -/
def ofMagnitude (negative : Bool) (bits : Nat) : Double :=
  ⟨UInt64.ofNat (if negative then signBit + bits else bits)⟩

def infinity (negative : Bool) : Double := ofMagnitude negative infinityBits

def nan (negative : Bool) : Double := ofMagnitude negative (infinityBits + normalBound / 2)

/-- How often the unit is doubled for a quotient of units to have a significand of 53 bits. -/
def scaleOf (num den : Nat) : Nat := (num / den).log2 - 52

/-- The bits of the double nearest to a quotient of units, ties going to even significands. -/
def magnitudeOf (num den : Nat) : Nat :=
  let s := scaleOf num den
  min infinityBits (s * normalBound + roundQuotient num (den * Nat.pow 2 s))

/-- The double nearest to a quotient; infinity when that is out of range. -/
def ofQuotient (negative : Bool) (num den : Nat) : Double :=
  ofMagnitude negative (magnitudeOf (num * unitsPerOne) den)

/-- The double nearest to a natural. -/
def ofNat (n : Nat) : Double := ofQuotient false n 1

/-- The double nearest to the sum of two finite numbers that are not negative. -/
def plus (x y : Double) : Double := ofMagnitude false (magnitudeOf (x.units + y.units) 1)

/-- Equality of numbers: the two zeros are equal, and what is not a number equals nothing. -/
def same (x y : Double) : Bool :=
  !x.isNaN && !y.isNaN && (x.bits == y.bits || (x.magnitude == 0 && y.magnitude == 0))

end Double

end MetricAgent.Decimal
