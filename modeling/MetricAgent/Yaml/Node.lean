import MetricAgent.Yaml.Token

/-!
YAML documents as trees. An alias keeps the number of its anchor and is looked up in the document,
so that a node may hold an alias of a node around it.
-/

namespace MetricAgent.Yaml

abbrev Tag := List UInt8

/-- A scalar, a collection, or an alias of a node that is written elsewhere. -/
inductive Node where
  | scalar (tag : Option Tag) (style : Style) (text : List Char)
  | sequence (tag : Option Tag) (items : List Node)
  | mapping (tag : Option Tag) (pairs : List (Node × Node))
  | alias (anchor : Nat)
  deriving Inhabited

/-- What stands where nothing is written. -/
def Node.nothing : Node := .scalar none .plain []

/--
The anchors of a document. An anchor gets the number of names that are known when it is met, and an
alias means the last node that got the number of its name.
-/
structure Anchors where
  numbers : List (List Char × Nat)
  /-- The node that has a number, by its place among all nodes with anchors; the last one first. -/
  holders : List (Nat × Nat)
  nodes : List (Nat × Node)

namespace Anchors

def none : Anchors := ⟨[], [], []⟩

/-- Gives a name its number and names the place of its node. -/
def add (a : Anchors) (name : List Char) : Nat × Anchors :=
  let number := a.numbers.length
  let place := a.holders.length
  (place, { a with
    numbers := (name, number) :: a.numbers.filter (·.1 ≠ name)
    holders := (number, place) :: a.holders })

/-- The node with a number. -/
def find? (a : Anchors) (number : Nat) : Option Node :=
  (a.holders.lookup number).bind fun place => a.nodes.lookup place

end Anchors

/-- A document with one node, or with nothing at all. -/
structure Document where
  root : Option Node
  anchors : Anchors

/-! ### Reading tokens -/

/-- The tokens that are left, the meaning of tag handles, and the anchors so far. -/
structure Reader where
  tokens : List Token
  handles : List (TagPart × TagPart)
  anchors : Anchors

/-- A step of reading, which fails where the tokens do not fit. -/
abbrev Read := StateT Reader Option

namespace Read

def peek : Read (Option Token) := do return (← get).tokens.head?

def skip : Read Unit := modify fun r => { r with tokens := r.tokens.drop 1 }

/-- Takes a token if it comes next. -/
def accept (t : Token) : Read Bool := do
  if (← peek) = some t then skip *> return true else return false

def expect (t : Token) : Read Unit := do if !(← accept t) then failure

/-- An anchor in front of a node, as the place of its node. -/
def anchor? : Read (Option Nat) := do
  match ← peek with
  | some (.anchor name) =>
    skip
    let (place, anchors) := (← get).anchors.add name
    modify fun r => { r with anchors := anchors }
    return some place
  | _ => return none

/-- A tag in front of a node, with its handle put in. -/
def tag? : Read (Option Tag) := do
  match ← peek with
  | some (.tag [] suffix) => skip *> return some suffix
  | some (.tag handle suffix) =>
    skip
    match (← get).handles.lookup handle with
    | some lead => return some (lead ++ suffix)
    | none => failure
  | _ => return none

/-- An anchor and a tag in either order. -/
def properties : Read (Option Nat × Option Tag) := do
  match ← anchor? with
  | some place => return (some place, ← tag?)
  | none =>
    let tag ← tag?
    return (← anchor?, tag)

/-- Remembers the node at the place of its anchor. -/
def record (place : Option Nat) (n : Node) : Read Unit :=
  match place with
  | none => return
  | some place => modify fun r =>
    { r with anchors := { r.anchors with nodes := (place, n) :: r.anchors.nodes } }

def aliased (name : List Char) : Read Node := do
  match (← get).anchors.numbers.lookup name with
  | some number => return .alias number
  | none => failure

/-- A tag without a name says nothing of a scalar. -/
def scalarTag (tag : Option Tag) : Option Tag := tag.filter (· ≠ localHandle)

end Read

open Read

/-- Where a node stands: whether it may be in block style, also a sequence that is not indented. -/
structure NodePlace where
  block : Bool
  unindented : Bool

/-- An entry of a sequence in block style, in flow style, and a part of a pair in block style. -/
def NodePlace.entry : NodePlace := ⟨true, false⟩

def NodePlace.flow : NodePlace := ⟨false, false⟩

def NodePlace.part : NodePlace := ⟨true, true⟩

/-- What may follow a mark when nothing is written behind it. -/
def afterEntry : List Token := [.blockEntry, .blockEnd]

def afterUnindented : List Token := [.blockEntry, .key, .value, .blockEnd]

def afterPart : List Token := [.key, .value, .blockEnd]

def afterFlowKey : List Token := [.value, .flowEntry, .flowMappingEnd]

def afterFlowValue : List Token := [.flowEntry, .flowMappingEnd]

def afterSingleKey : List Token := [.value, .flowEntry, .flowSequenceEnd]

def afterSingleValue : List Token := [.flowEntry, .flowSequenceEnd]

mutual

/-- Reads a node with its anchor and tag. The first argument bounds the depth of calls. -/
def node (depth : Nat) (p : NodePlace) : Read Node :=
  match depth with
  | 0 => failure
  | d + 1 => do
    match ← peek with
    | some (.alias name) => skip *> aliased name
    | _ =>
      let (place, tag) ← properties
      let n ← content d p tag (place.isSome || tag.isSome)
      record place n
      return n

/-- Reads a node behind its properties; if there are some, nothing need follow. -/
def content (depth : Nat) (p : NodePlace) (tag : Option Tag) (mayLack : Bool) : Read Node :=
  match depth with
  | 0 => failure
  | d + 1 => do
    match ← peek with
    | some (.scalar style text) => skip *> return .scalar (scalarTag tag) style text
    | some .flowSequence => skip *> (.sequence tag <$> flowItems d true)
    | some .flowMapping => skip *> (.mapping tag <$> flowPairs d true)
    | t =>
      if p.unindented && t = some .blockEntry then .sequence tag <$> unindentedItems d
      else if p.block && t = some .blockSequence then skip *> (.sequence tag <$> blockItems d)
      else if p.block && t = some .blockMapping then skip *> (.mapping tag <$> blockPairs d)
      else if mayLack then return .scalar tag .plain []
      else failure

/-- A node, or nothing before one of some tokens. -/
def nodeBefore (depth : Nat) (stops : List Token) (p : NodePlace) : Read Node :=
  match depth with
  | 0 => failure
  | d + 1 => do
    if (← peek).any stops.contains then return .nothing else node d p

/-- The items of a sequence in block style. -/
def blockItems (depth : Nat) : Read (List Node) :=
  match depth with
  | 0 => failure
  | d + 1 => do
    if ← accept .blockEntry then
      let n ← nodeBefore d afterEntry .entry
      return n :: (← blockItems d)
    else expect .blockEnd *> return []

/-- The items of a sequence that is not indented; what follows ends it. -/
def unindentedItems (depth : Nat) : Read (List Node) :=
  match depth with
  | 0 => failure
  | d + 1 => do
    if ← accept .blockEntry then
      let n ← nodeBefore d afterUnindented .entry
      return n :: (← unindentedItems d)
    else return []

/-- The pairs of a mapping in block style. -/
def blockPairs (depth : Nat) : Read (List (Node × Node)) :=
  match depth with
  | 0 => failure
  | d + 1 => do
    if ← accept .key then
      let k ← nodeBefore d afterPart .part
      let v ← if ← accept .value then nodeBefore d afterPart .part else pure .nothing
      return (k, v) :: (← blockPairs d)
    else expect .blockEnd *> return []

/-- The items of a sequence in flow style, with commas between them; one may follow the last. -/
def flowItems (depth : Nat) (first : Bool) : Read (List Node) :=
  match depth with
  | 0 => failure
  | d + 1 => do
    if ← accept .flowSequenceEnd then return []
    else
      if !first then expect .flowEntry
      if ← accept .flowSequenceEnd then return []
      else
        let n ← if ← accept .key then singlePair d else node d .flow
        return n :: (← flowItems d false)

/-- A mapping of one pair inside a sequence. A mark in the place of its key is passed over. -/
def singlePair (depth : Nat) : Read Node :=
  match depth with
  | 0 => failure
  | d + 1 => do
    let k ←
      if (← peek).any afterSingleKey.contains then skip *> pure .nothing else node d .flow
    let v ← if ← accept .value then nodeBefore d afterSingleValue .flow else pure .nothing
    return .mapping none [(k, v)]

/-- The pairs of a mapping in flow style, with commas between them; one may follow the last. -/
def flowPairs (depth : Nat) (first : Bool) : Read (List (Node × Node)) :=
  match depth with
  | 0 => failure
  | d + 1 => do
    if ← accept .flowMappingEnd then return []
    else
      if !first then expect .flowEntry
      if ← accept .flowMappingEnd then return []
      else if ← accept .key then
        let k ← nodeBefore d afterFlowKey .flow
        let v ← if ← accept .value then nodeBefore d afterFlowValue .flow else pure .nothing
        return (k, v) :: (← flowPairs d false)
      else
        let k ← node d .flow
        return (k, .nothing) :: (← flowPairs d false)

end

/-! ### Documents -/

/-- The handles that need no directive. -/
def commonHandles : List (TagPart × TagPart) :=
  [(localHandle, localHandle), (handleBytes [], "tag:yaml.org,2002:".toUTF8.toList)]

/-- The handles of directives, none of which may be given twice; at most one version, 1.1 or 1.2. -/
def directives? (versioned : Bool) (handles : List (TagPart × TagPart)) :
    List Token → Option (List (TagPart × TagPart) × List Token)
  | .version major minor :: ts =>
    if versioned || major ≠ 1 || !(minor = 1 || minor = 2) then none
    else directives? true handles ts
  | .tagPrefix handle lead :: ts =>
    if (handles.lookup handle).isSome then none
    else directives? versioned ((handle, lead) :: handles) ts
  | ts => some (handles, ts)

/-- Tokens that end a document or stand in front of one. -/
def isBoundary : Token → Bool
  | .version _ _ | .tagPrefix _ _ | .documentStart | .documentEnd => true
  | _ => false

/-- Reads a node in front of some ends of the document, behind which nothing may follow. -/
def Document.ofContent? (handles : List (TagPart × TagPart)) (ts : List Token) :
    Option Document := do
  let (root, r) ← (node (4 * ts.length + 4) .entry).run ⟨ts, handles ++ commonHandles, .none⟩
  if (r.tokens.dropWhile (· = .documentEnd)).isEmpty then some ⟨some root, r.anchors⟩ else none

/-- The only document of some tokens. -/
def Document.ofTokens? (ts : List Token) : Option Document :=
  match ts with
  | [] => some ⟨none, .none⟩
  | t :: _ =>
    if isBoundary t then
      match directives? false [] ts with
      | some (handles, .documentStart :: ts) =>
        if ts.head?.all isBoundary then
          if (ts.dropWhile (· = .documentEnd)).isEmpty then some ⟨some .nothing, .none⟩ else none
        else ofContent? handles ts
      | _ => none
    else ofContent? [] ts

/-- The only document of a text. -/
def Document.ofText? (s : List Char) : Option Document :=
  (Token.ofText? s).bind Document.ofTokens?

end MetricAgent.Yaml
