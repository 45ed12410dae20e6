import MetricAgent.Decimal.Shortest
import MetricAgent.Text.Quoted

/-!
JSON values and their text without spaces.
-/

namespace MetricAgent.Json

open Decimal Text

/-- A JSON value. Numbers are words, whole numbers or finite doubles. -/
inductive Value where
  | null
  | bool (b : Bool)
  | whole (n : Int)
  | real (x : Double)
  | string (s : String)
  | array (items : List Value)
  | object (fields : List (String × Value))
  deriving Inhabited

/-- The escape of a control character by its code point. -/
def controlEscape (c : Char) : List Char :=
  let ds := hexDigits c.toNat
  ['\\', 'u'] ++ List.replicate (4 - ds.length) '0' ++ ds

/-- A character of a string; all but quotes, backslashes and controls stand for themselves. -/
def escapeChar (c : Char) : List Char :=
  match c with
  | '"' => ['\\', '"']
  | '\\' => ['\\', '\\']
  | '\n' => ['\\', 'n']
  | '\r' => ['\\', 'r']
  | '\t' => ['\\', 't']
  | '\x08' => ['\\', 'b']
  | '\x0c' => ['\\', 'f']
  | c => if c.toNat < 0x20 then controlEscape c else [c]

def stringText (s : String) : List Char := '"' :: s.toList.flatMap escapeChar ++ ['"']

/-- A whole number in digits, with a sign if it is negative. -/
def wholeText (n : Int) : List Char := (if n < 0 then ['-'] else []) ++ digits n.natAbs

mutual

/-- The text of a value. -/
def Value.text : Value → List Char
  | .null => "null".toList
  | .bool true => "true".toList
  | .bool false => "false".toList
  | .whole n => wholeText n
  | .real x => jsonNumber x
  | .string s => stringText s
  | .array items => '[' :: itemsText items ++ [']']
  | .object fields => '\x7b' :: fieldsText fields ++ ['\x7d']

/-- The items of an array with commas between them. -/
def itemsText : List Value → List Char
  | [] => []
  | [v] => v.text
  | v :: w :: r => v.text ++ ',' :: itemsText (w :: r)

/-- The fields of an object with commas between them. -/
def fieldsText : List (String × Value) → List Char
  | [] => []
  | [(k, v)] => stringText k ++ ':' :: v.text
  | (k, v) :: f :: r => stringText k ++ ':' :: v.text ++ ',' :: fieldsText (f :: r)

end

end MetricAgent.Json
