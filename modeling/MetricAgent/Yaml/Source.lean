/-!
A YAML text as characters that know their place. Line breaks are made uniform on the way, so that
whatever reads the text sees one character for each break.
-/

namespace MetricAgent.Yaml

/-- Characters that end a line. -/
def isBreak (c : Char) : Bool :=
  c = '\n' || c = '\r' || c = '\u0085' || c = '\u2028' || c = '\u2029'

/-- The break that is read: separators of lines and paragraphs are kept, all others are alike. -/
def uniformBreak (c : Char) : Char := if c = '\u2028' || c = '\u2029' then c else '\n'

/-- Characters that may stand in a text: all but most controls and two that are no characters. -/
def isAllowed (c : Char) : Bool :=
  let n := c.toNat
  n == 0x9 || n == 0xA || n == 0xD || (0x20 ≤ n && n ≤ 0x7E) || n == 0x85 ||
    (0xA0 ≤ n && n ≤ 0xFFFD) || 0x10000 ≤ n

/-- A character and its place, lines and columns being counted from zero. -/
structure Glyph where
  char : Char
  line : Nat
  column : Nat
  deriving DecidableEq, Repr

namespace Glyph

def isBreak (g : Glyph) : Bool := Yaml.isBreak g.char

def isBlank (g : Glyph) : Bool := g.char = ' ' || g.char = '\t'

def isGap (g : Glyph) : Bool := g.isBlank || g.isBreak

end Glyph

abbrev Source := List Glyph

namespace Source

/-- The characters of a text that starts at some place. -/
def ofChars (line column : Nat) : List Char → Source
  | [] => []
  | '\r' :: '\n' :: s => ⟨'\n', line, column⟩ :: ofChars (line + 1) 0 s
  | c :: s =>
    if isBreak c then ⟨uniformBreak c, line, column⟩ :: ofChars (line + 1) 0 s
    else ⟨c, line, column⟩ :: ofChars line (column + 1) s

/--
A whole text, if it holds nothing but allowed characters. A byte order mark in front is passed over,
but takes up the first column.
-/
def ofText? (s : List Char) : Option Source :=
  if s.all isAllowed then
    some <| match s with
      | '\uFEFF' :: r => ofChars 0 1 r
      | r => ofChars 0 0 r
  else none

/-- Whether a word ends here. -/
def endsWord : Source → Bool
  | [] => true
  | g :: _ => g.isGap

/-- Whether one of some characters comes next. -/
def next (s : Source) (p : Char → Bool) : Bool := s.head?.any fun g => p g.char

/-- Whether a marker of a document comes next: three characters alone at the start of a line. -/
def atMarker (marker : List Char) (s : Source) : Bool :=
  (s.head?.any (·.column = 0)) && (s.take 3).map Glyph.char = marker && endsWord (s.drop 3)

def startMarker : List Char := "---".toList

def endMarker : List Char := "...".toList

def atDocumentMarker (s : Source) : Bool := s.atMarker startMarker || s.atMarker endMarker

/-- The longest run of characters of a class, and the text after it. -/
def spanChars (p : Char → Bool) (s : Source) : List Char × Source :=
  ((s.takeWhile fun g => p g.char).map Glyph.char, s.dropWhile fun g => p g.char)

/-- The text after tabs and spaces. -/
def dropBlanks (s : Source) : Source := s.dropWhile Glyph.isBlank

/-- The text after blanks, a comment if there is one, and the break of the line; nothing else. -/
def endLine? (s : Source) : Option Source :=
  let s := s.dropBlanks
  match if s.next (· = '#') then s.dropWhile (!·.isBreak) else s with
  | [] => some []
  | g :: r => if g.isBreak then some r else none

end Source

end MetricAgent.Yaml
