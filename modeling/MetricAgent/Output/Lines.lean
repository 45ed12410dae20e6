import MetricAgent.Measurement

/-!
Measurements as lines of text. In raw mode every value is written as it is. In derived mode a
counter is written as what it gained since the last reading of the same name, and its first reading
is not written; the readings are kept in a history, which starts over when it is full.
-/

namespace MetricAgent.Output

open Decimal Text Time

/-- How measurements become lines. -/
structure LineFormat where
  namePrefix : Option String
  source : Option String
  derived : Bool
  historyLimit : Nat
  deriving Repr

namespace LineFormat

/-- The distinct counters of a history unless a limit is given. -/
def defaultHistoryLimit : Nat := 10000

/-- A format with a limit of at least one counter. -/
def withHistoryLimit (f : LineFormat) (n : Nat) : LineFormat :=
  { f with historyLimit := max n 1 }

def name (f : LineFormat) : String := if f.derived then "stdout-derived" else "stdout-raw"

end LineFormat

/-- The latest reading of each counter by its outside name, in the order of first arrival. -/
abbrev History := List (String × Measurement)

namespace History

/-- The latest reading of a name. -/
def find? (h : History) (name : String) : Option Measurement := h.lookup name

/-- Takes the place of the reading of a name, or comes last. -/
def insert (name : String) (m : Measurement) : History → History
  | [] => [(name, m)]
  | (k, v) :: h => if k = name then (k, m) :: h else (k, v) :: insert name m h

theorem find?_cons (k name : String) (m : Measurement) (h : History) :
    find? ((k, m) :: h) name = if name = k then some m else h.find? name := by
  by_cases hk : name = k
  · simp [find?, hk]
  · have hb : (name == k) = false := by simpa using hk
    simp [find?, List.lookup_cons, hk, hb]

@[simp] theorem find?_insert_self (h : History) (name : String) (m : Measurement) :
    (h.insert name m).find? name = some m := by
  induction h with
  | nil => simp [insert, find?]
  | cons p h ih =>
    obtain ⟨k, v⟩ := p
    by_cases hk : k = name
    · simp [insert, hk, find?_cons]
    · simp [insert, hk, find?_cons, ih, Ne.symm hk]

/-- The readings of other names stay as they are. -/
theorem find?_insert_of_ne {h : History} {name other : String} (m : Measurement)
    (hne : other ≠ name) : (h.insert name m).find? other = h.find? other := by
  induction h with
  | nil => simp [insert, find?_cons, hne]
  | cons p h ih =>
    obtain ⟨k, v⟩ := p
    by_cases hk : k = name
    · simp [insert, hk, find?_cons, hne]
    · simp [insert, hk, find?_cons, ih]

/-- The history that a reading of a name goes into: an empty one if there is no room for it. -/
def makeRoom (h : History) (limit : Nat) (name : String) : History :=
  if limit ≤ h.length && (h.find? name).isNone then [] else h

end History

/-- The text of a line: the second, the name, the value and the source if one is set. -/
def lineText (source : Option String) (time : Timestamp) (name value : List Char) : String :=
  String.ofList <|
    "when=".toList ++ time.toText ++ " sample#".toList ++ name ++ '=' :: value ++
      (source.elim [] fun s => " source=".toList ++ s.toList) ++ ['\n']

/-- The value that is written, if any, and the history after it. -/
def valueText (f : LineFormat) (h : History) (m : Measurement) : Option (List Char) × History :=
  match f.derived, m.reading with
  | true, .counter _ =>
    let name := m.name f.namePrefix
    let h := h.makeRoom f.historyLimit name
    (((h.find? name).bind m.difference).map fun n => digits n.toNat, h.insert name m)
  | _, r => (some r.text, h)

/-- The line of a measurement, if it is written, and the history after it. -/
def line (f : LineFormat) (h : History) (m : Measurement) : Option String × History :=
  let (value, h) := valueText f h m
  (value.map (lineText f.source m.time (m.nameChars f.namePrefix)), h)

/-- The lines of measurements one after the other. -/
def lines (f : LineFormat) (h : History) : List Measurement → List (Option String)
  | [] => []
  | m :: ms => (line f h m).1 :: lines f (line f h m).2 ms

/-- What reaches a writer that fails at some writes, counted from zero. Failures are passed over. -/
def written (fails : Nat → Bool) (ls : List (Option String)) : String :=
  String.join <| ((ls.filterMap id).zipIdx.filter fun (_, i) => !fails i).map Prod.fst

end MetricAgent.Output
