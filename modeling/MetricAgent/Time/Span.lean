import MetricAgent.Decimal.Double
import MetricAgent.Decimal.Natural

/-!
Lengths of time and their short text, which names the largest unit that they fill.
-/

namespace MetricAgent.Time

open Decimal

namespace Span

/-! Nanoseconds in the larger units. -/

def perSecond : Nat := 1000000000

def perMilli : Nat := 1000000

def perMicro : Nat := 1000

/-- The nanoseconds of the longest span, whose whole seconds are the largest word. -/
def maxNanos : Nat := wordBound * perSecond - 1

end Span

/-- A length of time, in nanoseconds; its whole seconds are a word. -/
structure Span where
  nanos : Nat
  nanos_le : nanos ≤ Span.maxNanos
  deriving DecidableEq, Repr

namespace Span

/-- Some nanoseconds, as far as a span can be. -/
def ofNanos (n : Nat) : Span := ⟨min n maxNanos, Nat.min_le_right n maxNanos⟩

def ofSeconds (n : Nat) : Span := ofNanos (n * perSecond)

def ofMillis (n : Nat) : Span := ofNanos (n * perMilli)

def zero : Span := ofNanos 0

/-- The longer one of two spans. -/
def longer (a b : Span) : Span := if a.nanos ≤ b.nanos then b else a

def isZero (d : Span) : Bool := d.nanos = 0

/-- Whole seconds. -/
def wholeSeconds (d : Span) : Nat := d.nanos / perSecond

/-- Nanoseconds after the last whole second. -/
def subsecNanos (d : Span) : Nat := d.nanos % perSecond

/-- The seconds as a number: what follows the whole ones is rounded first, and then the sum. -/
def seconds (d : Span) : Double :=
  (Double.ofNat d.wholeSeconds).plus (.ofQuotient false d.subsecNanos perSecond)

/-- Whole milliseconds. -/
def millis (d : Span) : Nat := d.nanos / perMilli

/-- One span after another, as far as a span can be. -/
def add (a b : Span) : Span := ofNanos (a.nanos + b.nanos)

/-- Twice as long, as far as a span can be. -/
def double (d : Span) : Span := d.add d

/-- The places of a fraction `n / 10 ^ width` behind its point, without zeros at the end. -/
def places (width n : Nat) : List Char :=
  ((padded width n).reverse.dropWhile (· = '0')).reverse

/-- A number of units of `10 ^ width` nanoseconds, with as many places as it needs. -/
def inUnits (width : Nat) (n : Nat) (unit : String) : String :=
  let fraction := places width (n % Nat.pow 10 width)
  text (n / Nat.pow 10 width) ++
    (if fraction.isEmpty then "" else "." ++ String.ofList fraction) ++ unit

/-- The text of a span in the largest of `s`, `ms`, `µs` and `ns` that it fills. -/
def compact (d : Span) : String :=
  if perSecond ≤ d.nanos then inUnits 9 d.nanos "s"
  else if perMilli ≤ d.nanos then inUnits 6 d.nanos "ms"
  else if perMicro ≤ d.nanos then inUnits 3 d.nanos "µs"
  else text d.nanos ++ "ns"

end Span

end MetricAgent.Time
