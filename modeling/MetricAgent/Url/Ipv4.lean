import MetricAgent.Decimal.Natural
import MetricAgent.Text.Fields
import MetricAgent.Url.Percent

/-!
Version 4 addresses as URLs write them: up to four numbers between points, each decimal, octal or
hexadecimal, of which the last fills all bytes that the others leave.
-/

namespace MetricAgent.Url.Ipv4

open Decimal Text

/-- The digits of a number and their base. -/
def radix : List Char → Nat × List Char
  | '0' :: 'x' :: s | '0' :: 'X' :: s => (16, s)
  | '0' :: c :: s => (8, c :: s)
  | s => (10, s)

/-- A number in some base. -/
def inBase? (base : Nat) (s : List Char) : Option Nat :=
  s.foldlM (fun n c => ((hexValue? c).filter (· < base)).map (base * n + ·)) 0

/-- A number of an address; only the base sign may stand for zero. -/
def number? (s : List Char) : Option Nat :=
  if s.isEmpty then none
  else
    let (base, ds) := radix s
    inBase? base ds

/-- The parts of a name, without an empty last one. -/
def parts (s : List Char) : List (List Char) :=
  let ps := splitOn '.' s
  if 1 < ps.length && ps.getLast? = some [] then ps.dropLast else ps

/-- A name that can only be an address: its last part is a number. -/
def endsInNumber (s : List Char) : Bool :=
  match (parts s).getLast? with
  | none => false
  | some p => isNumeral p || (number? p).isSome

/-- The address of some numbers. -/
def ofNumbers? (ns : List Nat) : Option Nat :=
  match ns.reverse with
  | [] => none
  | last :: front =>
    let size := Nat.pow 256 (4 - front.length)
    if front.length ≤ 3 && front.all (· < 256) && last < size then
      some (front.reverse.foldl (fun n b => 256 * n + b) 0 * size + last)
    else none

/-- Reads an address. -/
def ofText? (s : List Char) : Option Nat := ((parts s).mapM number?).bind ofNumbers?

/-- Four bytes in decimal with points between them. -/
def text (n : Nat) : List Char :=
  join '.' ([n / 16777216, n / 65536 % 256, n / 256 % 256, n % 256].map digits)

end MetricAgent.Url.Ipv4
