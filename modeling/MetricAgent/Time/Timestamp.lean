import MetricAgent.Decimal.Natural
import MetricAgent.Time.Calendar
import MetricAgent.Time.Span

/-!
Instants of universal time, and their text in the Internet date format of RFC 3339.

A leap second is the second before it with a thousand million nanoseconds more.
-/

namespace MetricAgent.Time

open Decimal

/-- An instant: seconds from the start of 1970, and nanoseconds after that second. -/
structure Timestamp where
  seconds : Int
  nanos : Nat
  deriving DecidableEq, Repr, Inhabited

namespace Timestamp

/-- The instants that can be held: those of the years -262143 to 262142. -/
def minSeconds : Int := -8334601228800

def maxSeconds : Int := 8210266876799

/-- The start of a second, if it can be held. -/
def ofSeconds? (s : Int) : Option Timestamp :=
  if minSeconds ≤ s && s ≤ maxSeconds then some ⟨s, 0⟩ else none

/-- Two digits, and the text after them. -/
def twoDigits : List Char → Option (Nat × List Char)
  | a :: b :: r => if a.isDigit && b.isDigit then some (ofDigits [a, b], r) else none
  | _ => none

theorem twoDigits_eq_some {s r : List Char} {n : Nat} (h : twoDigits s = some (n, r)) :
    ∃ a b, s = a :: b :: r ∧ a.isDigit = true ∧ b.isDigit = true ∧ n = ofDigits [a, b] := by
  unfold twoDigits at h
  split at h
  next a b tail =>
    split at h
    next hd =>
      obtain ⟨rfl, rfl⟩ := Prod.mk.inj (Option.some.inj h)
      obtain ⟨ha, hb⟩ := Bool.and_eq_true_iff.mp hd
      exact ⟨a, b, rfl, ha, hb, rfl⟩
    next => cases h
  next => cases h

/-- A given character, and the text after it. -/
def expect (c : Char) : List Char → Option (List Char)
  | d :: r => if d = c then some r else none
  | [] => none

theorem expect_eq_some {c : Char} {s r : List Char} : expect c s = some r ↔ s = c :: r := by
  cases s with
  | nil => simp [expect]
  | cons d s => by_cases hd : d = c <;> simp [expect, hd]

/-- A full date, and the text after it. -/
def date? (s : List Char) : Option (Date × List Char) := do
  let (century, s) ← twoDigits s
  let (year, s) ← twoDigits s
  let s ← expect '-' s
  let (month, s) ← twoDigits s
  let s ← expect '-' s
  let (day, s) ← twoDigits s
  let date : Date := ⟨(100 * century + year : Nat), month, day⟩
  if date.isValid then some (date, s) else none

/-- There is a hyphen in every date. -/
theorem hyphen_mem_of_date? {s r : List Char} {d : Date} (h : date? s = some (d, r)) :
    '-' ∈ s := by
  unfold date? at h
  simp only [Option.bind_eq_bind, Option.bind_eq_some_iff] at h
  obtain ⟨⟨century, s₁⟩, h₁, ⟨year, s₂⟩, h₂, s₃, h₃, -⟩ := h
  obtain ⟨a, b, rfl, -⟩ := twoDigits_eq_some h₁
  obtain ⟨c, d, rfl, -⟩ := twoDigits_eq_some h₂
  obtain rfl := expect_eq_some.mp h₃
  simp

/-- The mark between date and time. -/
def separator : List Char → Option (List Char)
  | c :: r => if c = 'T' || c = 't' || c = ' ' then some r else none
  | [] => none

/-- A time of day as a second and nanoseconds, the sixtieth second being a leap second. -/
def clock? (s : List Char) : Option (Nat × Nat × List Char) := do
  let (hour, s) ← twoDigits s
  let s ← expect ':' s
  let (minute, s) ← twoDigits s
  let s ← expect ':' s
  let (sec, s) ← twoDigits s
  if hour ≤ 23 && minute ≤ 59 && sec ≤ 60 then
    some (3600 * hour + 60 * minute + min sec 59, if sec = 60 then Span.perSecond else 0, s)
  else none

/-- A fraction of a second in nanoseconds; places after the ninth are dropped. -/
def fraction? : List Char → Option (Nat × List Char)
  | '.' :: r =>
    let ds := r.takeWhile Char.isDigit
    if ds.isEmpty then none
    else
      let first := ds.take 9
      some (ofDigits first * Nat.pow 10 (9 - first.length), r.dropWhile Char.isDigit)
  | s => some (0, s)

/-- The distance from universal time at the end of a text, in seconds. -/
def offset? : List Char → Option Int
  | [c] => if c = 'Z' || c = 'z' then some 0 else none
  | c :: s => do
    let sign : Int ←
      if c = '+' then some 1 else if c = '-' || c = '\u2212' then some (-1) else none
    let (hour, s) ← twoDigits s
    let s ← expect ':' s
    let (minute, s) ← twoDigits s
    if hour ≤ 23 && minute ≤ 59 && s.isEmpty then
      some (sign * (3600 * hour + 60 * minute : Nat))
    else none
  | [] => none

/-- Reads a date, a time of day and an offset. -/
def ofText? (s : List Char) : Option Timestamp := do
  let (date, s) ← date? s
  let s ← separator s
  let (sec, leap, s) ← clock? s
  let (nanos, s) ← fraction? s
  let offset ← offset? s
  some ⟨86400 * date.toDays + sec - offset, leap + nanos⟩

/-- Digits alone are no date. -/
theorem ofText?_of_isNumeral {s : List Char} (h : isNumeral s = true) : ofText? s = none := by
  cases ht : ofText? s with
  | none => rfl
  | some t =>
    unfold ofText? at ht
    obtain ⟨⟨d, r⟩, hd, -⟩ := Option.bind_eq_some_iff.mp ht
    have hdigit := List.all_eq_true.mp (Bool.and_eq_true_iff.mp h).2 _ (hyphen_mem_of_date? hd)
    cases hdigit

/-- A year with at least four digits; one outside four digits has a sign. -/
def yearText (y : Int) : List Char :=
  if 0 ≤ y && y ≤ 9999 then padded 4 y.toNat
  else (if y < 0 then '-' else '+') :: padded 4 y.natAbs

/-- The second of an instant as text, with a leap second as the sixtieth of its minute. -/
def toText (t : Timestamp) : List Char :=
  let date := Date.ofDays (t.seconds / 86400)
  let sec := (t.seconds % 86400).toNat
  let leap := if Span.perSecond ≤ t.nanos then 1 else 0
  yearText date.year ++ '-' :: padded 2 date.month ++ '-' :: padded 2 date.day ++
    'T' :: padded 2 (sec / 3600) ++ ':' :: padded 2 (sec / 60 % 60) ++
    ':' :: padded 2 (sec % 60 + leap) ++ ['Z']

end Timestamp

end MetricAgent.Time
