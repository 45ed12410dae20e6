import MetricAgent.Text.Fields

/-!
Tables over code points, as words between blanks. Code points are written in hexadecimal digits.
-/

namespace MetricAgent.Text

/-- A code point that lies in one of some closed ranges. -/
def inRanges (n : Nat) (ranges : Array (Nat × Nat)) : Bool :=
  ranges.any fun (low, high) => low ≤ n && n ≤ high

namespace CodeTable

/-- The number that hexadecimal digits in capitals denote. -/
def hexNumber (s : List Char) : Nat :=
  s.foldl (fun n c => 16 * n + (if c.isDigit then c.toNat - 48 else c.toNat - 55)) 0

/-- The number that decimal digits denote. -/
def decimal (s : List Char) : Nat := s.foldl (fun n c => 10 * n + (c.toNat - 48)) 0

/-- A text in front of a mark, and the text behind it. -/
def cut (mark : Char) (s : List Char) : List Char × List Char :=
  (s.takeWhile (· ≠ mark), (s.dropWhile (· ≠ mark)).drop 1)

/-- A range `low-high`, or a code point alone. -/
def range (s : List Char) : Nat × Nat :=
  let (low, high) := cut '-' s
  (hexNumber low, hexNumber (if high.isEmpty then low else high))

/-- Ranges. -/
def ranges (table : String) : Array (Nat × Nat) := ((words table.toList).map range).toArray

/-- Ranges, each with a number behind a colon. -/
def numberedRanges (table : String) : Array ((Nat × Nat) × Nat) :=
  ((words table.toList).map fun w => let (r, n) := cut ':' w; (range r, decimal n)).toArray

/-! ### Pairs -/

/--
Pairs `a+c` behind a word `@b`: each says that `a` and `b` make up `c`. The triples have the order
`a`, `b`, `c`.
-/
def triples (table : String) : Array (Nat × Nat × Nat) :=
  let next : Nat × List (Nat × Nat × Nat) → List Char → Nat × List (Nat × Nat × Nat)
    | (_, ts), '@' :: s => (hexNumber s, ts)
    | (b, ts), s => let (a, c) := cut '+' s; (b, (hexNumber a, b, hexNumber c) :: ts)
  ((words table.toList).foldl next (0, [])).2.reverse.toArray

/-! ### Runs -/

/-- A run of code points, every one or every second one, that all have targets of the same form. -/
structure Run where
  first : Nat
  last : Nat
  step : Nat
  /-- What the targets start with. -/
  lead : List Nat
  /-- How the first target ends. -/
  base : Nat
  /-- Whether the ends of the targets rise with the code points. -/
  rises : Bool
  deriving Repr

/-- The target of a code point in a run. -/
def Run.target? (r : Run) (n : Nat) : Option (List Nat) :=
  if r.first ≤ n && n ≤ r.last && (n - r.first) % r.step = 0 then
    some (r.lead ++ [if r.rises then r.base + (n - r.first) else r.base])
  else none

/-- The next code point, and the runs in front of it, the last one first. -/
structure RunReader where
  next : Nat
  runs : List Run

/-- Adds a run of some code points from the next one on. -/
def RunReader.add (t : RunReader) (targets : List Char) (count step : Nat) (rises : Bool) :
    RunReader :=
  let codes := (splitOn '+' targets).map hexNumber
  let last := t.next + step * (count - 1)
  ⟨last + 1, ⟨t.next, last, step, codes.dropLast, codes.getLastD 0, rises⟩ :: t.runs⟩

/--
Reads a word. `@n` goes to a code point, and `-n` passes over so many, `-` over one. Another word is
the target of the next code point, its parts joined by `+`. Behind it, `*n` says that the targets of
so many code points rise, `/n` the same for every second code point, and `=n` that so many code
points have the same target.
-/
def RunReader.word (t : RunReader) : List Char → RunReader
  | '@' :: s => { t with next := hexNumber s }
  | '-' :: s => { t with next := t.next + (if s.isEmpty then 1 else hexNumber s) }
  | s =>
    let isTarget (c : Char) : Bool := c.isAlphanum || c = '+'
    let targets := s.takeWhile isTarget
    match s.dropWhile isTarget with
    | '*' :: k => t.add targets (hexNumber k) 1 true
    | '/' :: k => t.add targets (hexNumber k) 2 true
    | '=' :: k => t.add targets (hexNumber k) 1 false
    | _ => t.add targets 1 1 false

/-- The runs of a table. -/
def runs (table : String) : Array Run :=
  ((words table.toList).foldl RunReader.word ⟨0, []⟩).runs.reverse.toArray

end CodeTable

end MetricAgent.Text
