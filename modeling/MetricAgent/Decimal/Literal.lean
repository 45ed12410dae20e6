import MetricAgent.Decimal.Natural
import MetricAgent.Decimal.Double

/-!
Doubles as text: the literals that are read, and the form with six places that is printed.
-/

namespace MetricAgent.Decimal

/-- A sign in front of a text, and the text after it. -/
def splitSign : List Char → Bool × List Char
  | '-' :: s => (true, s)
  | '+' :: s => (false, s)
  | s => (false, s)

/-- The digits that a text starts with, and the text after them. -/
def spanDigits (s : List Char) : List Char × List Char :=
  (s.takeWhile Char.isDigit, s.dropWhile Char.isDigit)

/-- The exponent after a mantissa: nothing, or a letter `e`, an optional sign and digits. -/
def exponent? : List Char → Option Int
  | [] => some 0
  | c :: s =>
    if c = 'e' || c = 'E' then
      let (negative, ds) := splitSign s
      if isNumeral ds then
        some (if negative then -(ofDigits ds : Int) else (ofDigits ds : Int))
      else none
    else none

/-- A decimal mantissa and exponent: the number `mantissa * 10 ^ exponent`. -/
structure Scientific where
  mantissa : Nat
  exponent : Int

/-- Digits, an optional point and digits, with at least one digit in all, and an exponent. -/
def scientific? (s : List Char) : Option Scientific :=
  let (whole, r) := spanDigits s
  let (part, r) := match r with
    | '.' :: r => spanDigits r
    | r => ([], r)
  if whole.isEmpty && part.isEmpty then none
  else (exponent? r).map fun e =>
    ⟨ofDigits (whole ++ part), e - part.length⟩

/--
The double nearest to a decimal. A decimal of `k` digits lies below `10 ^ (k + exponent)` and, if
it is not zero, at or above a tenth of that; so far from the range of doubles no power is computed.
-/
def Scientific.toDouble (negative : Bool) (d : Scientific) : Double :=
  let top : Int := (digits d.mantissa).length + d.exponent
  if d.mantissa = 0 then .ofMagnitude negative 0
  else if 310 ≤ top then .infinity negative
  else if top ≤ -324 then .ofMagnitude negative 0
  else if 0 ≤ d.exponent then .ofQuotient negative (d.mantissa * Nat.pow 10 d.exponent.toNat) 1
  else .ofQuotient negative d.mantissa (Nat.pow 10 (-d.exponent).toNat)

/-- The names that stand for infinity. -/
def infinityNames : List (List Char) := ["inf".toList, "infinity".toList]

/-- Reads a literal: an optional sign, and a decimal or one of three names in either case. -/
def double? (s : List Char) : Option Double :=
  let (negative, r) := splitSign s
  let name := r.map Char.toLower
  if infinityNames.contains name then some (.infinity negative)
  else if name = "nan".toList then some (.nan negative)
  else (scientific? r).map (·.toDouble negative)

/-- Six places count millionths. -/
def million : Nat := 1000000

/-- A number of millionths, with six places. -/
def millionths (n : Nat) : List Char :=
  digits (n / million) ++ '.' :: padded 6 (n % million)

/-- A double rounded to six places, ties going to even; a negative one keeps its sign. -/
def sixPlaces (x : Double) : List Char :=
  if x.isNaN then "NaN".toList
  else
    (if x.isNegative then ['-'] else []) ++
      if x.isFinite then millionths (roundQuotient (x.units * million) Double.unitsPerOne)
      else "inf".toList

end MetricAgent.Decimal
