import MetricAgent.Measurement
import MetricAgent.Text.Quoted

/-!
Submitted lines: a time, a name, a value, and optionally a kind and a unit, between blanks. A line
is refused for the first of its fields that is wrong.
-/

namespace MetricAgent.Submission

open Decimal Text Time

/-- Why a line is refused; all but the first carry the field. -/
inductive LineError where
  | fieldCount (found : Nat)
  | timestamp (field : String)
  | metricName (field : String)
  | value (field : String)
  | counterValue (field : String)
  | kind (field : String)
  | unit (field : String)
  deriving DecidableEq, Repr

def LineError.message : LineError → String
  | fieldCount n => "expected 3, 4 or 5 fields, found " ++ text n
  | timestamp s => "invalid timestamp: " ++ quote s
  | metricName s => quote s ++ " is an improper metric name"
  | value s => "couldn't parse " ++ quote s ++ " as a value"
  | counterValue s => "value " ++ quote s ++ " is incompatible with the counter type"
  | kind s => "type " ++ quote s ++ " is neither counter nor gauge"
  | unit s => "invalid unit " ++ quote s

/-- A value as it is submitted, before its kind is settled. -/
inductive RawValue where
  | whole (n : UInt64)
  | real (x : Double)
  deriving DecidableEq

/-- A date with time of day and offset, or digits that count seconds. -/
def timestamp? (s : List Char) : Option Timestamp :=
  Timestamp.ofText? s <|> (word? s).bind fun n => Timestamp.ofSeconds? n.toNat

/-- A letter or a digit, and then letters, digits, points and hyphens. -/
def isMetricName : List Char → Bool
  | [] => false
  | c :: s => c.isAlphanum && s.all fun c => c.isAlphanum || c = '.' || c = '-'

/-- Digits of a word, or else a literal of a finite double. -/
def value? (s : List Char) : Option RawValue :=
  match word? s with
  | some n => some (.whole n)
  | none => ((double? s).filter Double.isFinite).map .real

/-- A character of a unit. -/
def isUnitChar (c : Char) : Bool := c.isAlpha || c = '$' || c = '%' || c = '#'

/-- At least one character of a unit, and no others. -/
def isUnitPart (s : List Char) : Bool := !s.isEmpty && s.all isUnitChar

/-- A name, or a name, a comma and an abbreviation. -/
def unit? (s : List Char) : Option UnitOfMeasure :=
  match splitOn ',' s with
  | [name] => if isUnitPart name then some ⟨String.ofList name, ""⟩ else none
  | [name, abbreviation] =>
    if isUnitPart name && isUnitPart abbreviation then
      some ⟨String.ofList name, String.ofList abbreviation⟩
    else none
  | _ => none

/-- The words for the two kinds. -/
def counterWords : List (List Char) := ["c".toList, "counter".toList]

def gaugeWords : List (List Char) := ["g".toList, "gauge".toList]

/-- The reading of a value, given the field of its kind if there is one. -/
def reading (value : List Char) (raw : RawValue) : Option (List Char) → Except LineError Reading
  | none =>
    match raw with
    | .whole n => .ok (.counter n)
    | .real x => .ok (.floatGauge x)
  | some kind =>
    if counterWords.contains kind then
      match raw with
      | .whole n => .ok (.counter n)
      | .real _ => .error (.counterValue (String.ofList value))
    else if gaugeWords.contains kind then
      match raw with
      | .whole n => .ok (.gauge n)
      | .real x => .ok (.floatGauge x)
    else .error (.kind (String.ofList kind))

/-- The unit, which is none without a field. -/
def unit : Option (List Char) → Except LineError UnitOfMeasure
  | none => .ok .none
  | some s => (unit? s).elim (.error (.unit (String.ofList s))) .ok

/-- Something, or the error that it is missing. -/
def require {α : Type} (e : LineError) (a : Option α) : Except LineError α :=
  a.elim (.error e) .ok

/-- The measurement of a time, a name, a value and the optional fields. -/
def ofFields (collector : String) (time name value : List Char)
    (kind unitField : Option (List Char)) : Except LineError Measurement := do
  let time ← require (.timestamp (String.ofList time)) (timestamp? time)
  if isMetricName name then
    let raw ← require (.value (String.ofList value)) (value? value)
    let reading ← reading value raw kind
    let unit ← unit unitField
    .ok ⟨time, collector, (splitOn '.' name).map String.ofList, reading, unit⟩
  else .error (.metricName (String.ofList name))

/-- Reads one line as a measurement of a collector. -/
def parseLine (collector : String) (line : List Char) : Except LineError Measurement :=
  match words line with
  | [time, name, value] => ofFields collector time name value none none
  | [time, name, value, kind] => ofFields collector time name value (some kind) none
  | [time, name, value, kind, unit] => ofFields collector time name value (some kind) (some unit)
  | fields => .error (.fieldCount fields.length)

end MetricAgent.Submission
