import MetricAgent.Yaml.Scalar

/-!
The tokens of a YAML text. Collections in block style have no marks of their own: their starts and
ends are found from the columns of keys and entries. That a scalar is a key is only known when a
colon follows, so the tokens of a key are put in afterwards, where it began.
-/

namespace MetricAgent.Yaml

open Decimal

abbrev TagPart := List UInt8

/-- What a text in YAML is made of. -/
inductive Token where
  | version (major minor : Nat)
  | tagPrefix (handle lead : TagPart)
  | documentStart
  | documentEnd
  | blockSequence
  | blockMapping
  | blockEnd
  | flowSequence
  | flowSequenceEnd
  | flowMapping
  | flowMappingEnd
  | blockEntry
  | flowEntry
  | key
  | value
  | alias (name : List Char)
  | anchor (name : List Char)
  | tag (handle suffix : TagPart)
  | scalar (style : Style) (text : List Char)
  deriving DecidableEq, Repr

/-! ### Anchors, tags and directives -/

def isWordChar (c : Char) : Bool := c.isAlphanum || c = '_' || c = '-'

/-- What may follow a name: a gap, the end, or one of some marks. -/
def endsName (s : Source) : Bool := s.endsWord || s.next "?:,]\x7d%@`".toList.contains

/-- The name of an anchor or alias. -/
def anchorName? (s : Source) : Option (List Char × Source) :=
  let (name, r) := s.spanChars isWordChar
  if !name.isEmpty && endsName r then some (name, r) else none

def asciiBytes (s : List Char) : TagPart := s.map fun c => UInt8.ofNat c.toNat

/-- The bytes of a character that start with this one; none if no character starts with it. -/
def leadWidth? (b : Nat) : Option Nat :=
  if b < 0x80 then some 1
  else if b < 0xC0 then none
  else if b < 0xE0 then some 2
  else if b < 0xF0 then some 3
  else if b < 0xF8 then some 4
  else none

/-- Characters of a tag; some only where it stands between angles or in a directive. -/
def isTagChar (verbatim : Bool) (c : Char) : Bool :=
  isWordChar c || ";/?:@&=+$.!~*'()".toList.contains c || (verbatim && ",[]".toList.contains c)

/--
The bytes of a tag as far as its characters go, given how many more bytes the last character needs.
A percent sign and two digits stand for one byte.
-/
def tagBytes? (verbatim : Bool) (due : Nat) : Source → Option (TagPart × Source)
  | [] => if due = 0 then some ([], []) else none
  | g :: s =>
    if g.char = '%' then
      match s with
      | h :: l :: s => do
        let b := 16 * (← hexDigit? h.char) + (← hexDigit? l.char)
        let due ← match due with
          | 0 => (leadWidth? b).map (· - 1)
          | n + 1 => if 0x80 ≤ b && b < 0xC0 then some n else none
        (tagBytes? verbatim due s).map fun (t, r) => (UInt8.ofNat b :: t, r)
      | _ => none
    else if due ≠ 0 then none
    else if isTagChar verbatim g.char then
      (tagBytes? verbatim 0 s).map fun (t, r) => (UInt8.ofNat g.char.toNat :: t, r)
    else some ([], g :: s)

/-- A tag that is not empty. -/
def tagUri? (verbatim : Bool) (s : Source) : Option (TagPart × Source) :=
  (tagBytes? verbatim 0 s).filter fun (t, _) => !t.isEmpty

/-- An exclamation mark, a word, and whether a second mark closes it. -/
def tagHandle? (s : Source) : Option (List Char × Bool × Source) :=
  if s.next (· = '!') then
    let (word, r) := Source.spanChars isWordChar (s.drop 1)
    some (if r.next (· = '!') then (word, true, r.drop 1) else (word, false, r))
  else none

/-- The handle with its marks. -/
def handleBytes (word : List Char) : TagPart := asciiBytes ('!' :: word ++ ['!'])

/-- The handle of all tags without one of their own. -/
def localHandle : TagPart := asciiBytes ['!']

/-- A tag as handle and suffix: between angles without a handle, with a handle, or local. -/
def tagParts? (s : Source) : Option (TagPart × TagPart × Source) := do
  match s with
  | ⟨'!', _, _⟩ :: ⟨'<', _, _⟩ :: s =>
    match ← tagUri? true s with
    | (t, ⟨'>', _, _⟩ :: r) => some ([], t, r)
    | _ => none
  | s =>
    let (word, closed, r) ← tagHandle? s
    if closed then
      let (t, r) ← tagUri? false r
      some (handleBytes word, t, r)
    else
      let (t, r) ← tagBytes? false 0 r
      let suffix := asciiBytes word ++ t
      if suffix.isEmpty then some ([], localHandle, r) else some (localHandle, suffix, r)

/-- A tag, which a gap ends, or a comma in a flow collection. -/
def tag? (flow : Bool) (s : Source) : Option (Token × Source) := do
  let (handle, suffix, r) ← tagParts? s
  if r.endsWord || (flow && r.next (· = ',')) then some (.tag handle suffix, r) else none

/-- A number of a version, of at most nine digits. -/
def versionNumber? (s : Source) : Option (Nat × Source) :=
  let (ds, r) := s.spanChars Char.isDigit
  if ds.isEmpty || 9 < ds.length then none else some (ofDigits ds, r)

/-- Two numbers with a point between them. -/
def version? (s : Source) : Option (Token × Source) := do
  match ← versionNumber? s.dropBlanks with
  | (major, ⟨'.', _, _⟩ :: r) =>
    let (minor, r) ← versionNumber? r
    some (.version major minor, r)
  | _ => none

/-- A handle and what it stands for. -/
def tagPrefix? (s : Source) : Option (Token × Source) := do
  let (word, closed, r) ← tagHandle? s.dropBlanks
  if (closed || word.isEmpty) && r.head?.any Glyph.isBlank then
    let (lead, r) ← tagUri? true r.dropBlanks
    if r.endsWord then
      some (.tagPrefix (if closed then handleBytes word else localHandle) lead, r)
    else none
  else none

/-- A directive behind its percent sign, to the end of its line. -/
def directive? (s : Source) : Option (Token × Source) := do
  let (name, r) := s.spanChars isWordChar
  if !r.endsWord then none
  else
    let (t, r) ←
      if name = "YAML".toList then version? r
      else if name = "TAG".toList then tagPrefix? r
      else none
    return (t, ← r.endLine?)

/-! ### Layout -/

/-- Where a key may have begun. -/
structure KeyPlace where
  /-- How many tokens come before it. -/
  position : Nat
  line : Nat
  column : Nat
  /-- Nothing but a key can stand there. -/
  required : Bool

/-- The tokens so far, and what decides about the next one. -/
structure Layout where
  tokens : List Token
  /-- The columns of the open block collections, innermost first. -/
  indents : List Nat
  /-- A place for a key at each level of flow collections and outside of them, innermost first. -/
  keys : List (Option KeyPlace)
  /-- Whether a key may begin here. -/
  keyAllowed : Bool

namespace Layout

def start : Layout := ⟨[], [], [none], true⟩

/-- Inside a flow collection. -/
def inFlow (l : Layout) : Bool := 1 < l.keys.length

/-- The column of the innermost block collection is smaller, or there is none. -/
def isInside (l : Layout) (column : Nat) : Bool := l.indents.head?.all (· < column)

def put (l : Layout) (t : Token) : Layout := { l with tokens := l.tokens ++ [t] }

def insert (l : Layout) (position : Nat) (t : Token) : Layout :=
  { l with tokens := l.tokens.take position ++ t :: l.tokens.drop position }

def allowKey (l : Layout) (b : Bool) : Layout := { l with keyAllowed := b }

/-- Ends the block collections that are further in than a column, or all. -/
def closeBlocks (l : Layout) (column : Option Nat) : Layout :=
  if l.inFlow then l
  else
    let isClosed (n : Nat) : Bool := column.all (· < n)
    { l with
      tokens := l.tokens ++ (l.indents.takeWhile isClosed).map fun _ => Token.blockEnd
      indents := l.indents.dropWhile isClosed }

/-- Starts a block collection if none is as far in as a column. -/
def openBlock (l : Layout) (position column : Nat) (t : Token) : Layout :=
  if !l.inFlow && l.isInside column then
    { l.insert position t with indents := column :: l.indents }
  else l

/-- A place for a key may be given up unless a key is required there. -/
def mayDrop (k : Option KeyPlace) : Bool := k.all (!·.required)

/-- Gives up the place for a key at the innermost level. -/
def dropKey (l : Layout) : Option Layout :=
  match l.keys with
  | k :: ks => if mayDrop k then some { l with keys := none :: ks } else none
  | [] => some l

/-- A key lies on one line and does not stretch over more than 1024 characters. -/
def isStale (g : Glyph) (k : KeyPlace) : Bool := k.line < g.line || k.column + 1024 < g.column

/-- Gives up all places from which a key cannot reach so far. -/
def dropStale (l : Layout) (g : Glyph) : Option Layout :=
  let stale (k : Option KeyPlace) : Bool := k.any (isStale g)
  if (l.keys.filter stale).all mayDrop then
    some { l with keys := l.keys.map fun k => if stale k then none else k }
  else none

/-- Remembers that a key may begin here, if it may. -/
def offerKey (l : Layout) (g : Glyph) : Option Layout :=
  if l.keyAllowed then
    l.dropKey.map fun l =>
      let k : KeyPlace :=
        ⟨l.tokens.length, g.line, g.column, !l.inFlow && l.indents.head? = some g.column⟩
      { l with keys := some k :: l.keys.drop 1 }
  else some l

/-- One of the marks `-`, `?` and `:` in block style opens a collection where a key may begin. -/
def openAt (l : Layout) (g : Glyph) (t : Token) : Option Layout :=
  if l.inFlow then some l
  else if l.keyAllowed then some (l.openBlock l.tokens.length g.column t)
  else none

/-- An entry of a sequence in block style. -/
def blockEntry (l : Layout) (g : Glyph) : Option Layout := do
  let l ← (← l.openAt g .blockSequence).dropKey
  return (l.put .blockEntry).allowKey true

/-- A key behind its own mark. -/
def explicitKey (l : Layout) (g : Glyph) : Option Layout := do
  let l ← (← l.openAt g .blockMapping).dropKey
  return (l.put .key).allowKey (!l.inFlow)

/-- The value of a key, whose tokens are put in if it had no mark of its own. -/
def value (l : Layout) (g : Glyph) : Option Layout :=
  match l.keys with
  | some k :: ks =>
    let l := (l.insert k.position .key).openBlock k.position k.column .blockMapping
    some (({ l with keys := none :: ks }.put .value).allowKey false)
  | _ => (l.openAt g .blockMapping).map fun l => (l.put .value).allowKey (!l.inFlow)

/-- The start of a collection in flow style. -/
def flowStart (l : Layout) (g : Glyph) (t : Token) : Option Layout :=
  (l.offerKey g).map fun l => { (l.put t).allowKey true with keys := none :: l.keys }

/-- The end of a collection in flow style. -/
def flowEnd (l : Layout) (t : Token) : Option Layout :=
  l.dropKey.map fun l =>
    { (l.put t).allowKey false with keys := if l.inFlow then l.keys.drop 1 else l.keys }

/-- A token that may be a key or stand in front of one. -/
def keyable (l : Layout) (g : Glyph) (t : Token) : Option Layout :=
  (l.offerKey g).map fun l => (l.put t).allowKey false

/-- A token at the start of a line that ends all block collections. -/
def atMargin (l : Layout) (t : Token) : Option Layout :=
  (l.closeBlocks none).dropKey.map fun l => (l.put t).allowKey false

/-- A block of lines, behind which a key may begin. -/
def block (l : Layout) (folded : Bool) (s : Source) : Option (Layout × Source) := do
  let l ← l.dropKey
  let (text, r) ← block? folded l.indents.head? s
  return ((l.put (.scalar (if folded then .folded else .literal) text)).allowKey true, r)

/-- A plain scalar; behind a line break in it a key may begin. -/
def plain (l : Layout) (g : Glyph) (s : Source) : Option (Layout × Source) := do
  let place : PlainPlace := ⟨l.inFlow, l.indents.head?.elim 0 (· + 1)⟩
  let (parts, broken, r) ← plainParts? place .char (g :: s)
  let l ← l.keyable g (.scalar .plain (foldWithin parts))
  return (if broken then l.allowKey true else l, r)

/-- Characters that no plain scalar starts with, some unless something follows. -/
def isIndicator (c : Char) : Bool := "-?:,[]\x7b\x7d#&*!|>'\"%@`".toList.contains c

def startsPlain (l : Layout) (g : Glyph) (s : Source) : Bool :=
  (!isIndicator g.char && !g.isGap) || (g.char = '-' && !s.head?.any Glyph.isBlank) ||
    (!l.inFlow && (g.char = '?' || g.char = ':') && !s.endsWord)

/-- The tokens that the next character starts, and the text after them. -/
def step (l : Layout) (g : Glyph) (s : Source) : Option (Layout × Source) := do
  let l := (← l.dropStale g).closeBlocks g.column
  let then? (l : Option Layout) : Option (Layout × Source) := l.map (·, s)
  let isMark := l.inFlow || s.endsWord
  if g.column = 0 && g.char = '%' then
    let (t, r) ← directive? s
    return (← l.atMargin t, r)
  else if Source.atMarker Source.startMarker (g :: s) then
    return (← l.atMargin .documentStart, s.drop 2)
  else if Source.atMarker Source.endMarker (g :: s) then
    return (← l.atMargin .documentEnd, s.drop 2)
  else
    match g.char with
    | '[' => then? (l.flowStart g .flowSequence)
    | '\x7b' => then? (l.flowStart g .flowMapping)
    | ']' => then? (l.flowEnd .flowSequenceEnd)
    | '\x7d' => then? (l.flowEnd .flowMappingEnd)
    | ',' => then? (l.dropKey.map fun l => (l.put .flowEntry).allowKey true)
    | '*' =>
      let (name, r) ← anchorName? s
      return (← l.keyable g (.alias name), r)
    | '&' =>
      let (name, r) ← anchorName? s
      return (← l.keyable g (.anchor name), r)
    | '!' =>
      let (t, r) ← tag? l.inFlow (g :: s)
      return (← l.keyable g t, r)
    | '\'' =>
      let (ps, r) ← singleParts? s
      return (← l.keyable g (.scalar .quoted (foldAll ps)), r)
    | '"' =>
      let (ps, r) ← doubleParts? .no s
      return (← l.keyable g (.scalar .quoted (foldAll ps)), r)
    | c =>
      if c = '-' && s.endsWord then then? (l.blockEntry g)
      else if c = '?' && isMark then then? (l.explicitKey g)
      else if c = ':' && isMark then then? (l.value g)
      else if (c = '|' || c = '>') && !l.inFlow then l.block (c = '>') s
      else if l.startsPlain g s then l.plain g s
      else none

/-- Passes over blanks, comments and line breaks. Outside of flow, a key may begin on a new line. -/
def skipGap (l : Layout) (comment : Bool) : Source → Layout × Source
  | [] => (l, [])
  | g :: s =>
    if g.isBreak then skipGap (l.allowKey (l.keyAllowed || !l.inFlow)) false s
    else if comment then skipGap l true s
    else if g.char = ' ' || (g.char = '\t' && (l.inFlow || !l.keyAllowed)) then skipGap l false s
    else if g.char = '#' then skipGap l true s
    else (l, g :: s)

/-- The layout at the end of a text. -/
def run (l : Layout) (s : Source) : Option Layout :=
  match l.skipGap false s with
  | (l, []) => (l.closeBlocks none).dropKey
  | (l, g :: r) =>
    match l.step g r with
    | none => none
    | some (l, t) => if t.length < s.length then run l t else none
termination_by s.length

end Layout

/-- The tokens of a text. -/
def Token.ofText? (s : List Char) : Option (List Token) :=
  (Source.ofText? s).bind fun s => (Layout.start.run s).map Layout.tokens

end MetricAgent.Yaml
