import MetricAgent.Text.Composition
import MetricAgent.Url.Direction
import MetricAgent.Url.Mapping
import MetricAgent.Url.Punycode

/-!
Domain names in ASCII: letters in lower case, and every label with other characters in Punycode.
-/

namespace MetricAgent.Url.Domain

open Text

/-- Characters that no domain name may hold. -/
def isForbidden (c : Char) : Bool :=
  c.toNat ≤ 0x20 || c.toNat = 0x7F ||
    ['#', '%', '/', ':', '<', '>', '?', '@', '[', '\\', ']', '^', '|'].contains c

/-- What marks a label in Punycode. -/
def aceMark : List Char := "xn--".toList

/-- A label that stands for characters beyond ASCII, in the form in which it enters a name. -/
def isForeign (label : List Char) : Bool :=
  label.any (128 ≤ ·.toNat) && !aceMark.isPrefixOf label && !label.head?.any isMark &&
    joinsWell [] label && label.all (fun c => mapChar c = some [c]) && compose label = label

/-- The characters of a label. One that is marked must decode to a label that gives it back. -/
def characters? (label : List Char) : Option (List Char) :=
  if label.any (128 ≤ ·.toNat) then
    if isForeign label then some label else none
  else if aceMark.isPrefixOf label then
    (Punycode.decode (label.drop 4)).bind fun l =>
      if isForeign l && aceMark ++ Punycode.encode l = label then some l else none
  else some label

/-- A label in ASCII. -/
def labelToAscii (label : List Char) : List Char :=
  if label.any (128 ≤ ·.toNat) then aceMark ++ Punycode.encode label else label

/-- A name in ASCII. If some label is written from right to left, all of them must read one way. -/
def toAscii (s : List Char) : Option (List Char) := do
  let mapped := compose (← s.mapM mapChar).flatten
  let labels ← (splitOn '.' mapped).mapM characters?
  let name := join '.' (labels.map labelToAscii)
  if name.any isForbidden || (labels.any goesLeft && !labels.all readsOneWay) then none
  else some name

end MetricAgent.Url.Domain
