import MetricAgent.Collector.Error
import MetricAgent.Listen.Connection
import MetricAgent.Time.Span

/-!
Collectors by name. There is at most one collector of a name: a later one takes the place of an
earlier one and is counted anew.
-/

namespace MetricAgent

open Text Time

namespace Collector

/-- How a poll ends. -/
inductive Ending where
  | done
  | failed (e : CollectorError)
  /-- The collector breaks down, so that nothing more is known of the poll. -/
  | aborted
  deriving DecidableEq, Repr

/-- What a collector does when it is polled: it takes some time, sends its readings, and ends. -/
structure Poll where
  lasts : Span
  readings : List Measurement
  ending : Ending

/-- What collectors look at when they are polled, next to the shared queue. -/
structure Surroundings where
  stats : Listen.Stats
  /-- The load of the host as it is written down, if it can be read. -/
  load : Option (List Char)
  /-- The seconds since the agent started. -/
  uptime : Decimal.Double

/-- Nothing has happened yet, and nothing can be read. -/
def Surroundings.initial : Surroundings := ⟨.zero, none, .ofNat 0⟩

end Collector

/-- A source of measurements. -/
structure Collector where
  name : String
  /-- The poll after a number of earlier ones, at a tick, with all that can be seen then. -/
  poll : Nat → Timestamp → Collector.Surroundings → Queue Measurement → Collector.Poll

namespace Collector

/-- A collector in a registry, with the polls that it has seen. -/
structure Entry where
  collector : Collector
  ticks : UInt64

def Entry.name (e : Entry) : String := e.collector.name

/-- The collectors that are polled, in the order of their names. -/
structure Registry where
  entries : List Entry

namespace Registry

def empty : Registry := ⟨[]⟩

/-- Puts an entry at its place in the order of names; an entry of the same name makes way. -/
def insert (e : Entry) : List Entry → List Entry
  | [] => [e]
  | x :: xs =>
    if e.name < x.name then e :: x :: xs
    else if e.name = x.name then e :: xs
    else x :: insert e xs

/-- A name is there afterwards if it is the new one or was there before. -/
theorem mem_names_insert {e : Entry} {es : List Entry} {n : String} :
    n ∈ (insert e es).map Entry.name ↔ n = e.name ∨ n ∈ es.map Entry.name := by
  induction es with
  | nil => simp [insert]
  | cons x xs ih =>
    unfold insert
    repeat' split
    · simp
    · next h => simp [h]
    · simp only [List.map_cons, List.mem_cons, ih]
      exact or_left_comm

def register (r : Registry) (c : Collector) : Registry := ⟨insert ⟨c, 0⟩ r.entries⟩

def names (r : Registry) : List String := r.entries.map Entry.name

def size (r : Registry) : Nat := r.entries.length

def isEmpty (r : Registry) : Bool := r.entries.isEmpty

/-- Every collector has seen one more poll. -/
def advance (r : Registry) : Registry := ⟨r.entries.map fun e => { e with ticks := e.ticks + 1 }⟩

/-- A registry as logs show it. -/
def describe (r : Registry) : String :=
  "CollectorRegistry \x7b collectors: [" ++ ", ".intercalate (r.names.map quote) ++ "], .. \x7d"

end Registry

end Collector

end MetricAgent
