import MetricAgent.Json.Text
import MetricAgent.Measurement
import MetricAgent.Time.Rounding

/-!
The body of a delivery request: two lists of entries, one for gauges of both kinds and one for
counters, each in the order of the batch. Doubles that are not finite have no entry.
-/

namespace MetricAgent.Http

open Decimal Time

/-- How measurements become entries. -/
structure PayloadOptions where
  namePrefix : Option String
  source : Option String
  /-- The span to whose multiples times are rounded. -/
  round : Option Span
  /-- Whether a batch reports its own size. -/
  reportSize : Bool
  deriving DecidableEq, Repr

/-- The value of an entry: a word or a finite double. -/
inductive EntryValue where
  | whole (n : UInt64)
  | real (x : Double)
  deriving DecidableEq

/-- One measurement as it is delivered. -/
structure Entry where
  name : String
  value : EntryValue
  measureTime : Int
  source : Option String
  unit : Option UnitOfMeasure
  deriving DecidableEq

/-- The entries of one request. -/
structure Payload where
  gauges : List Entry
  counters : List Entry
  deriving DecidableEq

/-- The second of a measurement, after rounding if that is asked for and possible. -/
def roundedSecond (t : Timestamp) (round : Option Span) : Int :=
  ((round.bind t.roundTo?).getD t).seconds

/-- The value of a reading, if it can be delivered. -/
def EntryValue.ofReading? : Reading → Option EntryValue
  | .counter n | .gauge n => some (.whole n)
  | .floatGauge x => if x.isFinite then some (.real x) else none

/-- The entry of a measurement, if its value can be delivered. -/
def Entry.ofMeasurement? (o : PayloadOptions) (m : Measurement) : Option Entry :=
  (EntryValue.ofReading? m.reading).map fun value =>
    { name := m.name o.namePrefix
      value := value
      measureTime := roundedSecond m.time o.round
      source := o.source
      unit := if m.unit.isEmpty then none else some m.unit }

/-- The entry of a measurement of one of the kinds that a test picks. -/
def entries (o : PayloadOptions) (pick : Kind → Bool) (ms : List Measurement) : List Entry :=
  (ms.filter fun m => pick m.reading.kind).filterMap (Entry.ofMeasurement? o)

/-- A report of a batch on its own size. -/
def sizeReport (now : Timestamp) (what : String) (n : Nat) : Measurement :=
  ⟨now, "output", ["http", "batch", what], .gauge (UInt64.ofNat n), .metrics⟩

namespace Payload

/-- The payload of a batch, delivered at some instant. -/
def ofBatch (o : PayloadOptions) (now : Timestamp) (ms : List Measurement) : Payload :=
  let gauges := entries o (· ≠ .counter) ms
  let counters := entries o (· = .counter) ms
  let reports :=
    if o.reportSize then
      [sizeReport now "gauges" gauges.length, sizeReport now "counters" counters.length]
    else []
  ⟨gauges ++ reports.filterMap (Entry.ofMeasurement? o), counters⟩

def length (p : Payload) : Nat := p.gauges.length + p.counters.length

def isEmpty (p : Payload) : Bool := p.length = 0

end Payload

/-! ### The text of a payload -/

open Json (Value)

def EntryValue.toJson : EntryValue → Value
  | whole n => .whole n.toNat
  | real x => .real x

/-- The unit of an entry as its two display names. -/
def unitJson (u : UnitOfMeasure) : Value :=
  .object [("display_units_long", .string u.name), ("display_units_short", .string u.abbreviation)]

/-- An entry as an object; source and unit are left out when there is none. -/
def Entry.toJson (e : Entry) : Value :=
  .object <|
    [("name", .string e.name), ("value", e.value.toJson), ("measure_time", .whole e.measureTime)] ++
      (e.source.map fun s => ("source", .string s)).toList ++
      (e.unit.map fun u => ("attributes", unitJson u)).toList

def Payload.toJson (p : Payload) : Value :=
  .object [("gauges", .array (p.gauges.map Entry.toJson)),
    ("counters", .array (p.counters.map Entry.toJson))]

/-- The text that is posted. -/
def Payload.body (p : Payload) : String := String.ofList p.toJson.text

end MetricAgent.Http
