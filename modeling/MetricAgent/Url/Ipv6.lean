import MetricAgent.Text.Quoted
import MetricAgent.Url.Ipv4

/-!
Version 6 addresses: eight pieces of sixteen bits between colons. One run of zero pieces may be left
out between two colons, and the last two pieces may be written as a version 4 address.
-/

namespace MetricAgent.Url.Ipv6

open Decimal Text

/-- One piece, of one to four hexadecimal digits. -/
def piece? (s : List Char) : Option Nat :=
  if s.isEmpty || 4 < s.length then none else Ipv4.inBase? 16 s

/-- A byte in decimal without zeros in front. -/
def byte? (s : List Char) : Option Nat :=
  if isNumeral s && (s.length = 1 || s.head? ≠ some '0') && ofDigits s < 256 then
    some (ofDigits s)
  else none

/-- Two pieces written as four bytes. -/
def embedded? (s : List Char) : Option (List Nat) :=
  match (splitOn '.' s).mapM byte? with
  | some [a, b, c, d] => some [256 * a + b, 256 * c + d]
  | _ => none

/-- Pieces between colons; the last may be embedded if that is allowed. -/
def pieces? (mayEmbed : Bool) : List (List Char) → Option (List Nat)
  | [] => some []
  | [s] => if mayEmbed && s.contains '.' then embedded? s else (piece? s).map ([·])
  | s :: r => do some ((← piece? s) :: (← pieces? mayEmbed r))

/-- The pieces of a part of an address, which may be empty. -/
def side? (mayEmbed : Bool) (s : List Char) : Option (List Nat) :=
  if s.isEmpty then some [] else pieces? mayEmbed (splitOn ':' s)

/-- A text before and after its first two colons in a row. -/
def splitGap? : List Char → Option (List Char × List Char)
  | ':' :: ':' :: s => some ([], s)
  | c :: s => (splitGap? s).map fun (a, b) => (c :: a, b)
  | [] => none

/-- Reads an address. -/
def ofText? (s : List Char) : Option (List Nat) :=
  match splitGap? s with
  | none => (side? true s).filter (·.length = 8)
  | some (a, b) => do
    let front ← side? false a
    let back ← side? true b
    let n := front.length + back.length
    if n ≤ 7 then some (front ++ List.replicate (8 - n) 0 ++ back) else none

/-- The number of zeros at the start of some pieces. -/
def zeros (ps : List Nat) : Nat := (ps.takeWhile (· = 0)).length

/-- Where the first of the longest runs of zeros starts, and its length. -/
def longestRun (ps : List Nat) : Nat × Nat :=
  (List.range ps.length).foldl
    (fun best i => if best.2 < zeros (ps.drop i) then (i, zeros (ps.drop i)) else best) (0, 0)

/-- Pieces in hexadecimal with colons between them. -/
def piecesText (ps : List Nat) : List Char := join ':' (ps.map hexDigits)

/-- An address with its longest run of at least two zeros left out. -/
def text (ps : List Nat) : List Char :=
  let (start, n) := longestRun ps
  if n < 2 then piecesText ps
  else piecesText (ps.take start) ++ ':' :: ':' :: piecesText (ps.drop (start + n))

end MetricAgent.Url.Ipv6
