import MetricAgent.Decimal.Literal
import MetricAgent.Text.Fields
import MetricAgent.Time.Timestamp
import MetricAgent.Unit

/-!
Measurements: one reading of one metric at one instant. The name under which a metric is seen
outside is computed from a common prefix, the collector and the path, and is never stored.
-/

namespace MetricAgent

open Decimal Text Time

/-- What a reading tells: a running total, or the state at an instant as a word or a double. -/
inductive Kind where
  | counter
  | gauge
  | floatGauge
  deriving DecidableEq, Repr

namespace Kind

def all : List Kind := [counter, gauge, floatGauge]

def text : Kind → String
  | counter => "counter"
  | gauge => "gauge"
  | floatGauge => "float_gauge"

/-- Finds a kind by its text, in either case of its letters. -/
def ofText? (s : String) : Option Kind :=
  all.find? fun k => k.text.toList = s.toList.map Char.toLower

end Kind

/-- A kind with its value. -/
inductive Reading where
  | counter (value : UInt64)
  | gauge (value : UInt64)
  | floatGauge (value : Double)
  deriving DecidableEq, Inhabited

namespace Reading

def kind : Reading → Kind
  | counter _ => .counter
  | gauge _ => .gauge
  | floatGauge _ => .floatGauge

/-- The value as a double, the nearest one for a word. -/
def toDouble : Reading → Double
  | counter n | gauge n => .ofNat n.toNat
  | floatGauge x => x

/-- The value as text: all digits of a word, six places of a double. -/
def text : Reading → List Char
  | counter n | gauge n => digits n.toNat
  | floatGauge x => sixPlaces x

/-- Equality of kind and value, where doubles are equal as numbers are. -/
def same : Reading → Reading → Bool
  | counter m, counter n => m == n
  | gauge m, gauge n => m == n
  | floatGauge x, floatGauge y => x.same y
  | _, _ => false

end Reading

/-- One reading of one metric. -/
structure Measurement where
  time : Timestamp
  collector : String
  path : List String
  reading : Reading
  unit : UnitOfMeasure
  deriving DecidableEq, Inhabited

/-- Marks that stand for a point in a name. -/
def isNameMark (c : Char) : Bool := c = '#' || c = '_' || c = '-'

/-- A name with every mark written as a point. -/
def normalize (s : List Char) : List Char :=
  s.map fun c => if isNameMark c then '.' else c

@[simp] theorem length_normalize (s : List Char) : (normalize s).length = s.length := by
  simp [normalize]

@[simp] theorem normalize_append (s t : List Char) :
    normalize (s ++ t) = normalize s ++ normalize t := by
  simp [normalize]

/-- No mark is left in a normalized name. -/
theorem isNameMark_of_mem_normalize {s : List Char} {c : Char} (h : c ∈ normalize s) :
    isNameMark c = false := by
  obtain ⟨d, _, rfl⟩ := List.mem_map.1 h
  by_cases hd : isNameMark d
  · simp [hd]; rfl
  · simp [hd]

/-- A name without marks stays as it is. -/
theorem normalize_of_noMark {s : List Char} (h : ∀ c ∈ s, isNameMark c = false) :
    normalize s = s :=
  (List.map_congr_left fun c hc => by simp [h c hc]).trans (List.map_id s)

theorem normalize_normalize (s : List Char) : normalize (normalize s) = normalize s :=
  normalize_of_noMark fun _ => isNameMark_of_mem_normalize

/-- A name with every mark written as a point. -/
def normalizeName (s : String) : String := String.ofList (normalize s.toList)

/--
What a counter gained since an earlier reading. A counter that went back was reset, and its width
is not known; so its value is all that is known to be gained.
-/
def counterDifference (current previous : UInt64) : UInt64 :=
  if current < previous then current else current - previous

namespace Measurement

/-- The parts of the outside name: a prefix that is not empty, the collector and the path. -/
def nameParts (m : Measurement) (namePrefix : Option String) : List String :=
  (namePrefix.filter (!·.isEmpty)).toList ++ m.collector :: m.path

/-- The characters of the outside name. -/
def nameChars (m : Measurement) (namePrefix : Option String) : List Char :=
  normalize (join '.' ((m.nameParts namePrefix).map String.toList))

/-- The name of the metric as it is seen outside. -/
def name (m : Measurement) (namePrefix : Option String) : String :=
  String.ofList (m.nameChars namePrefix)

/-- The value as text. -/
def valueText (m : Measurement) : String := String.ofList m.reading.text

/-- What a counter gained since another reading; nothing unless both are counters. -/
def difference (m previous : Measurement) : Option UInt64 :=
  match m.reading, previous.reading with
  | .counter current, .counter last => some (counterDifference current last)
  | _, _ => none

/-- Equality of all parts, where doubles are equal as numbers are. -/
def same (m n : Measurement) : Bool :=
  m.time == n.time && m.collector == n.collector && m.path == n.path &&
    m.reading.same n.reading && m.unit == n.unit

end Measurement

end MetricAgent
