import MetricAgent.Time.Timestamp

/-!
Rounding an instant to the nearest multiple of a span, counted from the start of 1970.
-/

namespace MetricAgent.Time

namespace Timestamp

/-- The range of signed 64-bit counts of nanoseconds, within which instants are rounded. -/
def maxNanos : Int := 9223372036854775807

/-- Nanoseconds from the start of 1970; those of a leap second simply count on. -/
def sinceEpoch (t : Timestamp) : Int := t.seconds * Span.perSecond + t.nanos

/--
An instant some nanoseconds later or earlier. Inside a leap second the nanoseconds move alone; it
counts as a second of its own only from there.
-/
def add (t : Timestamp) (delta : Int) : Timestamp :=
  let secs := delta.tdiv Span.perSecond
  let frac := delta.tmod Span.perSecond
  let moved (base : Int) (nanos : Int) : Timestamp :=
    let total := nanos + frac
    ⟨base + secs + total / Span.perSecond, (total % Span.perSecond).toNat⟩
  if t.nanos < Span.perSecond then moved t.seconds t.nanos
  else if 0 < secs || (0 < frac && 2 * Span.perSecond ≤ t.nanos + frac) then
    moved t.seconds (t.nanos - Span.perSecond)
  else if secs < 0 then moved (t.seconds + 1) (t.nanos - Span.perSecond)
  else ⟨t.seconds, (t.nanos + frac).toNat⟩

/-- The distance to the nearest multiple of a positive span, the later of two equally near ones. -/
def toNearest (stamp : Int) (span : Nat) : Int :=
  let past := stamp % span
  if past = 0 then 0
  else if span - past ≤ past then span - past
  else -past

/--
The nearest multiple of a span. There is none for an empty span, nor when the span or the instant is
beyond the range of counts.
-/
def roundTo? (t : Timestamp) (d : Span) : Option Timestamp :=
  if 0 < d.nanos && (d.nanos : Int) ≤ maxNanos &&
      -maxNanos - 1 ≤ t.sinceEpoch && t.sinceEpoch ≤ maxNanos then
    some (t.add (toNearest t.sinceEpoch d.nanos))
  else none

end Timestamp

end MetricAgent.Time
