/-!
Days counted from 1 January 1970, and their dates in the Gregorian calendar, which is taken to hold
for all years.
-/

namespace MetricAgent.Time

/-- A day of the calendar. Year 0 is the year before year 1. -/
structure Date where
  year : Int
  month : Nat
  day : Nat
  deriving DecidableEq, Repr

def isLeapYear (y : Int) : Bool := y % 4 = 0 && (y % 100 ≠ 0 || y % 400 = 0)

/-- The number of days of a month; none for a month that does not exist. -/
def monthLength (y : Int) (m : Nat) : Nat :=
  match m with
  | 2 => if isLeapYear y then 29 else 28
  | 4 | 6 | 9 | 11 => 30
  | 1 | 3 | 5 | 7 | 8 | 10 | 12 => 31
  | _ => 0

def Date.isValid (d : Date) : Bool := 1 ≤ d.day && d.day ≤ monthLength d.year d.month

/-- Days from 1 March of year 0 to 1 January 1970. -/
def epochOffset : Int := 719468

/-- The day number of a date. Years are counted from March, so that a leap day ends its year. -/
def Date.toDays (d : Date) : Int :=
  let y := if d.month ≤ 2 then d.year - 1 else d.year
  let m : Int := (d.month + 9) % 12
  365 * y + y / 4 - y / 100 + y / 400 + (153 * m + 2) / 5 + (d.day - 1) - epochOffset

/-- The date of a day number. -/
def Date.ofDays (n : Int) : Date :=
  let z := n + epochOffset
  let era := z / 146097
  let doe := z % 146097
  let yoe := (doe - doe / 1460 + doe / 36524 - doe / 146096) / 365
  let doy := doe - (365 * yoe + yoe / 4 - yoe / 100)
  let mp := (5 * doy + 2) / 153
  let m := if mp < 10 then mp + 3 else mp - 9
  let y := yoe + era * 400
  ⟨if m ≤ 2 then y + 1 else y, m.toNat, (doy - (153 * mp + 2) / 5 + 1).toNat⟩

end MetricAgent.Time
