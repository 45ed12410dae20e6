import MetricAgent.Decimal.Natural
import MetricAgent.Yaml.Source

/-!
Scalars: plain text, text between quotes, and blocks of lines. Inside the first two, blanks around a
line break are dropped and a single break is a space.
-/

namespace MetricAgent.Yaml

open Decimal

/-- How a scalar is written, as far as its meaning depends on it. -/
inductive Style where
  | plain
  | quoted
  | literal
  | folded
  deriving DecidableEq, Repr

/-! ### Folding -/

/-- What a scalar on several lines is made of. -/
inductive Part where
  | char (c : Char)
  | blank (c : Char)
  | lineBreak (c : Char)
  /-- A break that joins two lines without a space. -/
  | joint
  deriving DecidableEq, Repr

/-- Blanks and breaks that have not been written yet. -/
inductive Gap where
  | blanks (s : List Char)
  /-- A first break, or none behind a joint, and the breaks after it. -/
  | breaks (first : Option Char) (more : List Char)
  deriving DecidableEq, Repr

namespace Gap

/-- What is written for a gap: one break is a space, and of several the first one is dropped. -/
def text : Gap → List Char
  | blanks s => s
  | breaks none more => more
  | breaks (some '\n') [] => [' ']
  | breaks (some '\n') more => more
  | breaks (some c) more => c :: more

/-- A gap with one more blank. -/
def addBlank (c : Char) : Gap → Gap
  | blanks s => blanks (s ++ [c])
  | g => g

/-- A gap with one more break. -/
def addBreak (c : Char) : Gap → Gap
  | blanks _ => breaks (some c) []
  | breaks first more => breaks first (more ++ [c])

end Gap

/-- The text of some parts after a gap, and the gap at their end. -/
def fold (gap : Gap) : List Part → List Char × Gap
  | [] => ([], gap)
  | .char c :: ps =>
    let (s, last) := fold (.blanks []) ps
    (gap.text ++ c :: s, last)
  | .joint :: ps =>
    let (s, last) := fold (.breaks none []) ps
    (gap.text ++ s, last)
  | .blank c :: ps => fold (gap.addBlank c) ps
  | .lineBreak c :: ps => fold (gap.addBreak c) ps

/-- The text of parts, without the gap at the end. -/
def foldWithin (ps : List Part) : List Char := (fold (.blanks []) ps).1

/-- The text of parts, with the gap at the end. -/
def foldAll (ps : List Part) : List Char :=
  let (s, last) := fold (.blanks []) ps
  s ++ last.text

/-! ### Plain scalars -/

def isFlowMark (c : Char) : Bool := c = ',' || c = '[' || c = ']' || c = '\x7b' || c = '\x7d'

/-- Where a plain scalar is read: inside a flow collection or not, and how far it is indented. -/
structure PlainPlace where
  flow : Bool
  indent : Nat

/-- What came last of a plain scalar. -/
inductive Last where
  | char
  | blank
  | lineBreak
  deriving DecidableEq

/-- A scalar cannot go on here, behind a gap: a marker, a comment, or too little indentation. -/
def PlainPlace.stopsLine (p : PlainPlace) (g : Glyph) (s : Source) : Bool :=
  g.char = '#' || Source.atDocumentMarker (g :: s) || (!p.flow && g.column < p.indent)

/-- A mark that ends a plain scalar wherever it stands. -/
def PlainPlace.stops (p : PlainPlace) (g : Glyph) (s : Source) : Bool :=
  (g.char = ':' && s.endsWord) || (p.flow && isFlowMark g.char)

/--
The parts of a plain scalar with the gap behind it, whether that gap has a break, and the text
after it. A tab may not stand for indentation, nor a colon before a mark in a flow collection.
-/
def plainParts? (p : PlainPlace) (last : Last) : Source → Option (List Part × Bool × Source)
  | [] => some ([], last = .lineBreak, [])
  | g :: s =>
    if g.isBreak then (plainParts? p .lineBreak s).map fun (ps, r) => (.lineBreak g.char :: ps, r)
    else if g.isBlank then
      if last = .lineBreak && g.column < p.indent && g.char = '\t' then none
      else
        (plainParts? p (if last = .lineBreak then last else .blank) s).map fun (ps, r) =>
          (.blank g.char :: ps, r)
    else if last ≠ .char && p.stopsLine g s then some ([], last = .lineBreak, g :: s)
    else if p.flow && g.char = ':' && Source.next s (fun c => isFlowMark c || c = '?') then none
    else if p.stops g s then some ([], last = .lineBreak, g :: s)
    else (plainParts? p .char s).map fun (ps, r) => (.char g.char :: ps, r)

/-! ### Quoted scalars -/

/-- What an escape in double quotes stands for. -/
def escaped : List (Char × Char) :=
  [('0', '\x00'), ('a', '\x07'), ('b', '\x08'), ('t', '\t'), ('\t', '\t'), ('n', '\n'),
    ('v', '\x0b'), ('f', '\x0c'), ('r', '\r'), ('e', '\x1b'), (' ', ' '), ('"', '"'), ('/', '/'),
    ('\\', '\\'), ('N', '\u0085'), ('_', '\u00a0'), ('L', '\u2028'), ('P', '\u2029')]

/-- How many digits follow the letter of an escape by code point. -/
def codeWidths : List (Char × Nat) := [('x', 2), ('u', 4), ('U', 8)]

/-- The value of a hexadecimal digit. -/
def hexDigit? (c : Char) : Option Nat :=
  if c.isDigit then some (c.toNat - 48)
  else if 'a' ≤ c && c ≤ 'f' then some (c.toNat - 87)
  else if 'A' ≤ c && c ≤ 'F' then some (c.toNat - 55)
  else none

/-- The character of a code point. -/
def ofCode? (n : Nat) : Option Char := if n.isValidChar then some (Char.ofNat n) else none

/-- The parts of a text in single quotes, behind the first one, and what follows the last one. -/
def singleParts? : Source → Option (List Part × Source)
  | [] => none
  | g :: s =>
    if Source.atDocumentMarker (g :: s) then none
    else if g.char = '\'' then
      match s with
      | ⟨'\'', _, _⟩ :: s => (singleParts? s).map fun (ps, r) => (.char '\'' :: ps, r)
      | s => some ([], s)
    else
      let part : Part :=
        if g.isBreak then .lineBreak g.char else if g.isBlank then .blank g.char else .char g.char
      (singleParts? s).map fun (ps, r) => (part :: ps, r)

/-- Where a text in double quotes stands: anywhere, behind a backslash, or in a code point. -/
inductive Escape where
  | no
  | start
  | code (left value : Nat)

/-- The parts of a text in double quotes, behind the first one, and what follows the last one. -/
def doubleParts? (e : Escape) : Source → Option (List Part × Source)
  | [] => none
  | g :: s =>
    match e with
    | .code left value => do
      let value := 16 * value + (← hexDigit? g.char)
      if left ≤ 1 then
        let c ← ofCode? value
        (doubleParts? .no s).map fun (ps, r) => (.char c :: ps, r)
      else doubleParts? (.code (left - 1) value) s
    | .start =>
      if g.isBreak then (doubleParts? .no s).map fun (ps, r) => (.joint :: ps, r)
      else
        match escaped.lookup g.char, codeWidths.lookup g.char with
        | some c, _ => (doubleParts? .no s).map fun (ps, r) => (.char c :: ps, r)
        | none, some width => doubleParts? (.code width 0) s
        | none, none => none
    | .no =>
      if Source.atDocumentMarker (g :: s) then none
      else if g.char = '"' then some ([], s)
      else if g.char = '\\' then doubleParts? .start s
      else
        let part : Part :=
          if g.isBreak then .lineBreak g.char else if g.isBlank then .blank g.char
          else .char g.char
        (doubleParts? .no s).map fun (ps, r) => (part :: ps, r)

/-! ### Blocks -/

/-- What becomes of the breaks at the end of a block. -/
inductive Chomping where
  | strip
  | clip
  | keep
  deriving DecidableEq, Repr

/-- The head of a block: its chomping, and by how much it is indented if that is said. -/
structure BlockHead where
  chomping : Chomping
  increment : Option Nat

def chomping? (c : Char) : Option Chomping :=
  if c = '+' then some .keep else if c = '-' then some .strip else none

/-- A digit for the indentation, which may not be zero; some nothing if there is no digit. -/
def increment? : Source → Option (Option Nat × Source)
  | [] => some (none, [])
  | g :: s =>
    if g.char = '0' then none
    else if g.char.isDigit then some (some (g.char.toNat - 48), s)
    else some (none, g :: s)

/-- A sign for the chomping; clipping if there is none. -/
def signOrClip : Source → Chomping × Source
  | [] => (.clip, [])
  | g :: s =>
    match chomping? g.char with
    | some c => (c, s)
    | none => (.clip, g :: s)

/-- Reads the head of a block, a sign and a digit in either order, to the end of its line. -/
def blockHead? (s : Source) : Option (BlockHead × Source) := do
  if s.next fun c => (chomping? c).isSome then
    let (chomping, s) := signOrClip s
    let (increment, s) ← increment? s
    return (⟨chomping, increment⟩, ← s.endLine?)
  else
    let (increment, s) ← increment? s
    let (chomping, s) := if increment.isSome then signOrClip s else (.clip, s)
    return (⟨chomping, increment⟩, ← s.endLine?)

/-- A line of a block with the breaks behind it, its own and those of empty lines after it. -/
structure BlockLine where
  text : List Char
  breaks : List Char

/--
The breaks of the empty lines in front of a block, the largest indentation of its lines up to the
first with a text, and the text from there. Without a known indentation all spaces belong to it.
-/
def leadingBreaks? (indent : Option Nat) (widest : Nat) :
    Source → Option (List Char × Nat × Source)
  | [] => some ([], widest, [])
  | g :: s =>
    let inside := indent.all (g.column < ·)
    if inside && g.char = ' ' then leadingBreaks? indent widest s
    else if inside && g.char = '\t' then none
    else if g.isBreak then
      (leadingBreaks? indent (max widest g.column) s).map fun (bs, r) => (g.char :: bs, r)
    else some ([], max widest g.column, g :: s)

/--
The rest of a line, or the breaks behind it; then the lines that are indented as far, and the text
after them.
-/
def blockLines? (indent : Nat) (inLine : Bool) :
    Source → Option (BlockLine × List BlockLine × Source)
  | [] => some (⟨[], []⟩, [], [])
  | g :: s =>
    if g.isBreak then
      (blockLines? indent false s).map fun (l, r) => ({ l with breaks := g.char :: l.breaks }, r)
    else if inLine then
      (blockLines? indent true s).map fun (l, r) => ({ l with text := g.char :: l.text }, r)
    else if g.column < indent then
      if g.char = ' ' then blockLines? indent false s
      else if g.char = '\t' then none
      else some (⟨[], []⟩, [], g :: s)
    else
      (blockLines? indent true s).map fun (l, ls, r) =>
        (⟨[], []⟩, { l with text := g.char :: l.text } :: ls, r)

def startsBlank (s : List Char) : Bool := s.head?.any fun c => c = ' ' || c = '\t'

/-- What stands between two lines of a folded block: a break between two full lines is a space. -/
def foldedBreaks (line next : BlockLine) : List Char :=
  match line.breaks with
  | '\n' :: more =>
    if startsBlank line.text || startsBlank next.text then '\n' :: more
    else if more.isEmpty then [' ']
    else more
  | bs => bs

/-- The breaks that are left at the end of a block. -/
def chompedBreaks (c : Chomping) (bs : List Char) : List Char :=
  match c with
  | .strip => []
  | .clip => bs.take 1
  | .keep => bs

/-- The text of the lines of a block. -/
def blockText (folded : Bool) (c : Chomping) : List BlockLine → List Char
  | [] => []
  | [l] => l.text ++ chompedBreaks c l.breaks
  | l :: m :: ls =>
    l.text ++ (if folded then foldedBreaks l m else l.breaks) ++ blockText folded c (m :: ls)

/-- Reads a block behind its mark, inside a collection at a column if there is one. -/
def block? (folded : Bool) (outer : Option Nat) (s : Source) : Option (List Char × Source) := do
  let (head, s) ← blockHead? s
  let known := head.increment.map fun n => outer.getD 0 + n
  let (leading, widest, s) ← leadingBreaks? known 0 s
  let indent := known.getD (max widest (outer.elim 1 (· + 1)))
  if s.head?.any (·.column = indent) then
    let (_, ls, s) ← blockLines? indent false s
    return (leading ++ blockText folded head.chomping ls, s)
  else return (if head.chomping = .keep then leading else [], s)

end MetricAgent.Yaml
