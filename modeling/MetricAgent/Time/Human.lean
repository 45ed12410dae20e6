import MetricAgent.Text.Fields
import MetricAgent.Text.Quoted
import MetricAgent.Time.Span

/-!
Spans as people write them: numbers with units, such as `1h 30m` or `1.5s`.

Reading is a scan of the characters with their byte offsets, which the errors report. Writing uses
one number for each unit from years down to nanoseconds.
-/

namespace MetricAgent.Time

open Decimal Text

/-- The units of a span. -/
inductive TimeUnit where
  | nanosecond
  | microsecond
  | millisecond
  | second
  | minute
  | hour
  | day
  | week
  | month
  | year
  deriving DecidableEq, Repr

namespace TimeUnit

def all : List TimeUnit :=
  [nanosecond, microsecond, millisecond, second, minute, hour, day, week, month, year]

/-- The names by which a unit is read. -/
def names : TimeUnit → List String
  | nanosecond => ["nanos", "nsec", "ns"]
  | microsecond => ["usec", "us", "µs"]
  | millisecond => ["millis", "msec", "ms"]
  | second => ["seconds", "second", "secs", "sec", "s"]
  | minute => ["minutes", "minute", "min", "mins", "m"]
  | hour => ["hours", "hour", "hrs", "hr", "h"]
  | day => ["days", "day", "d"]
  | week => ["weeks", "week", "wks", "wk", "w"]
  | month => ["months", "month", "M"]
  | year => ["years", "year", "yrs", "yr", "y"]

/-- Whole seconds in a unit; none for the units below a second. -/
def seconds : TimeUnit → Nat
  | nanosecond | microsecond | millisecond => 0
  | second => 1
  | minute => 60
  | hour => 3600
  | day => 86400
  | week => 604800
  | month => 2630016
  | year => 31557600

/-- Nanoseconds in a unit below a second. -/
def nanos : TimeUnit → Nat
  | nanosecond => 1
  | microsecond => Span.perMicro
  | millisecond => Span.perMilli
  | _ => 0

def ofName? (s : List Char) : Option TimeUnit :=
  all.find? fun u => (u.names.map String.toList).contains s

/--
The parts into which a fraction of a unit is counted: how many make the unit, and the nanoseconds
in each. Hours and longer units are counted in seconds, minutes and shorter ones in nanoseconds.
-/
def fractionScale? : TimeUnit → Option (Nat × Nat)
  | nanosecond => none
  | microsecond => some (Span.perMicro, 1)
  | millisecond => some (Span.perMilli, 1)
  | second => some (Span.perSecond, 1)
  | minute => some (60 * Span.perSecond, 1)
  | u => some (u.seconds, Span.perSecond)

end TimeUnit

/-- Why a text is no span. Offsets count the bytes before the place. -/
inductive SpanError where
  | invalidCharacter (offset : Nat)
  | numberExpected (offset : Nat)
  | unknownUnit (unit : List Char) (value : Nat)
  | outOfRange
  | blank
  | missing
  deriving DecidableEq, Repr

def SpanError.message : SpanError → String
  | invalidCharacter n => "invalid character at " ++ text n
  | numberExpected n => "expected number at " ++ text n
  | unknownUnit unit value =>
    if unit.isEmpty then
      "time unit needed, for example " ++ text value ++ "sec or " ++ text value ++ "ms"
    else
      "unknown time unit " ++ quote (String.ofList unit) ++ ", supported units: ns, us/µs, ms, " ++
        "sec, min, hours, days, weeks, months, years (and few variations)"
  | outOfRange =>
    "number is too large or cannot be represented without a lack of precision " ++
      "(values below 1ns are not supported)"
  | blank => "value was empty"
  | missing => "duration string is empty"

namespace Span

/-- A fraction as it is read: its digits as a number, over a power of ten. -/
structure Fraction where
  num : Nat
  den : Nat
  deriving DecidableEq, Repr

/-- Where a scan stands. -/
inductive Phase where
  /-- Before a number, since a byte offset. -/
  | start (offset : Nat)
  /-- In the digits of a whole number. -/
  | whole (n : Nat)
  /-- Behind the point; the offset is the one to report. -/
  | fraction (n : Nat) (f : Fraction) (offset : Nat)
  /-- In the letters of a unit. -/
  | unit (n : Nat) (f : Option Fraction) (letters : List Char)
  deriving DecidableEq, Repr

/-- The span of the parts read so far, and the phase. -/
structure Scan where
  total : Span
  phase : Phase
  deriving DecidableEq, Repr

/-- Numbers are words. -/
def word (n : Nat) : Except SpanError Nat :=
  if n < wordBound then .ok n else .error .outOfRange

/-- Adds seconds and nanoseconds, which are words, to a total. -/
def addTo (total : Span) (seconds nanos : Nat) : Except SpanError Span := do
  let _ ← word (total.subsecNanos + nanos)
  let sum := total.nanos + seconds * perSecond + nanos
  if h : sum ≤ maxNanos then .ok ⟨sum, h⟩ else .error .outOfRange

/-- Adds a number of units to a total. -/
def addPart (total : Span) (n : Nat) (f : Option Fraction) (letters : List Char) :
    Except SpanError Span := do
  match TimeUnit.ofName? letters with
  | none => .error (.unknownUnit letters n)
  | some u =>
    let seconds ← word (n * u.seconds)
    let nanos ← word (n * u.nanos)
    let total ← addTo total seconds nanos
    match f with
    | none => .ok total
    | some f =>
      match u.fractionScale? with
      | none => .error .outOfRange
      | some (scale, size) =>
        let scaled ← word (f.num * scale)
        if scaled % f.den = 0 then
          if size = 1 then addTo total 0 (scaled / f.den) else addTo total (scaled / f.den) 0
        else .error .outOfRange

/-- A letter of a unit. -/
def isUnitLetter (c : Char) : Bool := c.isAlpha || c = 'µ'

/-- Takes one more digit. -/
def pushDigit (n : Nat) (c : Char) : Except SpanError Nat := word (10 * n + (c.toNat - 48))

/-- A scan after one more character, which stands at a byte offset. -/
def step (s : Scan) (offset : Nat) (c : Char) : Except SpanError Scan :=
  let next := offset + c.utf8Size
  match s.phase with
  | .start since =>
    if c.isDigit then .ok ⟨s.total, .whole (c.toNat - 48)⟩
    else if isBlank c then .ok s
    else .error (.numberExpected since)
  | .whole n =>
    if c.isDigit then (pushDigit n c).map fun n => ⟨s.total, .whole n⟩
    else if isBlank c then .ok s
    else if isUnitLetter c then .ok ⟨s.total, .unit n none [c]⟩
    else if c = '.' then .ok ⟨s.total, .fraction n ⟨0, 1⟩ offset⟩
    else .error (.invalidCharacter offset)
  | .fraction n f mark =>
    if c.isDigit then do
      let den ← word (10 * f.den)
      let num ← pushDigit f.num c
      .ok ⟨s.total, .fraction n ⟨num, den⟩ next⟩
    else if isBlank c then .ok ⟨s.total, .fraction n f next⟩
    else if isUnitLetter c && f.den ≠ 1 then .ok ⟨s.total, .unit n (some f) [c]⟩
    else .error (.invalidCharacter mark)
  | .unit n f letters =>
    if c.isDigit then
      (addPart s.total n f letters).map fun total => ⟨total, .whole (c.toNat - 48)⟩
    else if isBlank c then
      (addPart s.total n f letters).map fun total => ⟨total, .start next⟩
    else if isUnitLetter c then .ok ⟨s.total, .unit n f (letters ++ [c])⟩
    else .error (.invalidCharacter offset)

/-- The span at the end of a text. A scan that began a second part has read a first. -/
def finish (s : Scan) : Except SpanError Span :=
  match s.phase with
  | .start since => if since = 0 then .error .blank else .ok s.total
  | .whole n => .error (.unknownUnit [] n)
  | .fraction n f mark =>
    if f.den = 1 then .error (.invalidCharacter mark) else .error (.unknownUnit [] n)
  | .unit n f letters => addPart s.total n f letters

/-- The rest of a scan, from a byte offset on. -/
def scanFrom (s : Scan) (offset : Nat) : List Char → Except SpanError Span
  | [] => finish s
  | c :: cs => do scanFrom (← step s offset c) (offset + c.utf8Size) cs

/-- Reads a span; `0` alone needs no unit. -/
def ofHuman (s : List Char) : Except SpanError Span :=
  if s = ['0'] then .ok zero else scanFrom ⟨zero, .start 0⟩ 0 s

/-- Reads a span with blanks around it. -/
def ofArgument (s : List Char) : Except SpanError Span :=
  let s := trim s
  if s.isEmpty then .error .missing else ofHuman s

/-- One number with its unit; nothing for zero. -/
def item (n : Nat) (unit : String) : List String :=
  if n = 0 then [] else [text n ++ unit]

/-- One number with a unit that has a plural. -/
def namedItem (n : Nat) (unit : String) : List String :=
  item n (if 1 < n then unit ++ "s" else unit)

/-- The numbers of a span, from years down to nanoseconds. -/
def items (d : Span) : List String :=
  let s := d.wholeSeconds
  let n := d.subsecNanos
  let ofYear := s % TimeUnit.year.seconds
  let ofMonth := ofYear % TimeUnit.month.seconds
  let ofDay := ofMonth % TimeUnit.day.seconds
  namedItem (s / TimeUnit.year.seconds) "year" ++
    namedItem (ofYear / TimeUnit.month.seconds) "month" ++
    namedItem (ofMonth / TimeUnit.day.seconds) "day" ++ item (ofDay / 3600) "h" ++
    item (ofDay % 3600 / 60) "m" ++ item (ofDay % 60) "s" ++ item (n / perMilli) "ms" ++
    item (n / perMicro % perMicro) "us" ++ item (n % perMicro) "ns"

/-- Writes a span; an empty one is `0s`. -/
def toHuman (d : Span) : String :=
  if d.isZero then "0s" else " ".intercalate d.items

end Span

end MetricAgent.Time
