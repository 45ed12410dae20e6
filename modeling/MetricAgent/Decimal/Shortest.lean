import MetricAgent.Decimal.Literal

/-!
The shortest decimal that reads back as a given double, and of those the nearest.

A grid of spacing `10 ^ p` holds a decimal between the midpoints to the neighbouring doubles iff
one of the two grid points next to the double itself lies there; so the first grid that has a hit,
going from coarse to fine, gives the least number of digits.
-/

namespace MetricAgent.Decimal

/-- The decimal places that all lengths here are counted in. -/
@[irreducible]
def pointPlaces : Nat := 1076

/-- A quarter of a unit, counted in places. -/
def quarterScale : Nat := Nat.pow 5 pointPlaces

/-- A double between the midpoints to its neighbours. -/
structure Neighbourhood where
  value : Nat
  low : Nat
  high : Nat
  /-- Whether the midpoints themselves read back as the double. -/
  closed : Bool

/-- The neighbourhood of a finite double, without its sign. -/
def neighbourhood (x : Double) : Neighbourhood :=
  let step := Nat.pow 2 x.scale
  let v := 4 * x.units
  let below := if x.significand = Double.normalBound && 0 < x.scale then step else 2 * step
  ⟨v * quarterScale, (v - below) * quarterScale, (v + 2 * step) * quarterScale,
    x.significand % 2 = 0⟩

/-- A point from which reading gives the double back. -/
def Neighbourhood.holds (n : Neighbourhood) (point : Nat) : Bool :=
  if n.closed then n.low ≤ point && point ≤ n.high else n.low < point && point < n.high

/-- The nearer of the two points of a grid around the double, if one reads back. -/
def Neighbourhood.onGrid? (n : Neighbourhood) (p : Nat) : Option Nat :=
  let g := Nat.pow 10 p
  let c := n.value / g
  let lower := n.holds (c * g)
  let upper := n.holds ((c + 1) * g)
  let twice := 2 * (n.value % g)
  if lower && (!upper || twice < g || (twice = g && c % 2 = 0)) then some c
  else if upper then some (c + 1)
  else none

/-- The first hit on the grids from `10 ^ p` down. -/
def Neighbourhood.firstHit (n : Neighbourhood) : Nat → Nat × Nat
  | 0 => (n.value, 0)
  | p + 1 =>
    match n.onGrid? (p + 1) with
    | some c => (c, p + 1)
    | none => n.firstHit p

/-- A number without the zeros at its end, and how many there were. -/
def dropZeros : Nat → Nat → Nat × Nat
  | 0, n => (n, 0)
  | fuel + 1, n =>
    if n ≠ 0 && n % 10 = 0 then
      let (m, k) := dropZeros fuel (n / 10)
      (m, k + 1)
    else (n, 0)

/-- The decimal without zeros at its end for the first hit around a double. -/
def Neighbourhood.shortest (n : Neighbourhood) : Scientific :=
  let (c, p) := n.firstHit ((digits n.value).length - 1)
  let (c, k) := dropZeros (digits c).length c
  ⟨c, (p + k : Int) - pointPlaces⟩

/-- The shortest decimal for a finite double that is not zero. -/
def shortest (x : Double) : Scientific := (neighbourhood x).shortest

/-- Digits with a point behind the first, if there are more. -/
def pointAfterFirst : List Char → List Char
  | c :: d :: r => c :: '.' :: d :: r
  | ds => ds

/--
A decimal as a number of a JSON text. With a leading digit worth `10 ^ x`, the places are
written out for `-5 ≤ x ≤ 15`, always with a point; otherwise the exponent is written with its sign.
-/
def Scientific.text (d : Scientific) : List Char :=
  let ds := digits d.mantissa
  let point : Int := ds.length + d.exponent
  let lead := point - 1
  if -5 ≤ lead && lead ≤ 15 then
    if point ≤ 0 then "0.".toList ++ List.replicate (-point).toNat '0' ++ ds
    else if 0 ≤ d.exponent then ds ++ List.replicate d.exponent.toNat '0' ++ ".0".toList
    else ds.take point.toNat ++ '.' :: ds.drop point.toNat
  else
    pointAfterFirst ds ++ 'e' :: (if lead < 0 then '-' else '+') :: digits lead.natAbs

/-- A finite double as a number of a JSON text. -/
def jsonNumber (x : Double) : List Char :=
  (if x.isNegative then ['-'] else []) ++
    if x.magnitude = 0 then "0.0".toList else (shortest x).text

end MetricAgent.Decimal
