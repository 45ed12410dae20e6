import MetricAgent.Yaml.Node

/-!
What the scalars of a document mean where a value of a certain kind is wanted. Any scalar is a text;
flags and numbers are plain, or blocks that a tag names as such.
-/

namespace MetricAgent.Yaml

open Decimal

/-- The tag of one of the common kinds of values. -/
def commonTag (kind : String) : Tag := ("tag:yaml.org,2002:" ++ kind).toUTF8.toList

/-- The texts that stand for no value. -/
def isNull (s : List Char) : Bool :=
  ["null".toList, "Null".toList, "NULL".toList, "~".toList].contains s

def flagOf? (s : List Char) : Option Bool :=
  if ["true".toList, "True".toList, "TRUE".toList].contains s then some true
  else if ["false".toList, "False".toList, "FALSE".toList].contains s then some false
  else none

/-- The number that digits of a base up to 16 denote. -/
def ofBase? (base : Nat) (s : List Char) : Option Nat :=
  if s.isEmpty then none
  else s.foldlM (fun n c => ((hexDigit? c).filter (· < base)).map (base * n + ·)) 0

/-- The bases that a text may name at its start. -/
def bases : List (List Char × Nat) := [("0x".toList, 16), ("0o".toList, 8), ("0b".toList, 2)]

/-- Digits that do not start with a superfluous zero. -/
def isTidy (s : List Char) : Bool := s.length ≤ 1 || s.head? ≠ some '0'

/-- A word in decimal or another base, with one plus sign allowed in front. -/
def wordOf? (s : List Char) : Option UInt64 := do
  let s := if s.head? = some '+' then s.drop 1 else s
  let n ← match bases.lookup (s.take 2) with
    | some base => ofBase? base (s.drop 2)
    | none => if isNumeral s && isTidy s then some (ofDigits s) else none
  if n < wordBound then some (UInt64.ofNat n) else none

namespace Document

/-- The node that an alias stands for; other nodes stand for themselves. -/
def resolve (d : Document) : Node → Option Node
  | .alias number => d.anchors.find? number
  | n => some n

/-- Nothing is written at a node. -/
def isNothing : Node → Bool
  | .scalar _ .plain [] => true
  | _ => false

/-- The text of a flag or a number. -/
def literal? (d : Document) (kind : String) (n : Node) : Option (List Char) := do
  match ← d.resolve n with
  | .scalar _ .plain s => some s
  | .scalar tag .literal s => if tag = some (commonTag kind) then some s else none
  | _ => none

def text? (d : Document) (n : Node) : Option String := do
  match ← d.resolve n with
  | .scalar _ _ s => some (String.ofList s)
  | _ => none

def flag? (d : Document) (n : Node) : Option Bool := (d.literal? "bool" n).bind flagOf?

def word? (d : Document) (n : Node) : Option UInt64 := (d.literal? "int" n).bind wordOf?

/-- A text or nothing, which a plain scalar without a tag may say, or one with the tag for it. -/
def optionalText? (d : Document) (n : Node) : Option (Option String) := do
  match ← d.resolve n with
  | .scalar none .plain s => some (if s.isEmpty || isNull s then none else some (String.ofList s))
  | .scalar (some tag) .plain s =>
    if tag ≠ commonTag "null" then some (some (String.ofList s))
    else if isNull s then some none
    else none
  | .scalar _ _ s => some (some (String.ofList s))
  | _ => none

/-- The items of a sequence; where nothing is written there are none. -/
def items? (d : Document) (n : Node) : Option (List Node) := do
  match ← d.resolve n with
  | .sequence _ items => some items
  | m => if isNothing m then some [] else none

/-- The pairs of a mapping whose keys are texts; where nothing is written there are none. -/
def pairs? (d : Document) (n : Node) : Option (List (String × Node)) := do
  match ← d.resolve n with
  | .mapping _ pairs => pairs.mapM fun (k, v) => do return (← d.text? k, v)
  | m => if isNothing m then some [] else none

/-- One of several choices, named by a text, or by a local tag without a value. -/
def choice? (d : Document) (n : Node) : Option String := do
  match ← d.resolve n with
  | .scalar (some (0x21 :: name)) style s =>
    if style = .plain && (s.isEmpty || isNull s) then String.fromUTF8? ⟨name.toArray⟩ else none
  | .scalar _ _ s => some (String.ofList s)
  | _ => none

end Document

end MetricAgent.Yaml
