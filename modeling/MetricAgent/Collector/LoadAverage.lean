import MetricAgent.Measurement

/-!
The load of the host: averages over one, five and fifteen minutes, how many scheduling entities run
and exist, and the last process number, as the kernel writes them on one line.
-/

namespace MetricAgent.Collector

open Decimal Text Time

/-- The load of the host at an instant. -/
structure LoadAverage where
  one : Double
  five : Double
  fifteen : Double
  executing : UInt64
  total : UInt64
  lastProcess : UInt64
  deriving DecidableEq

namespace LoadAverage

def collectorName : String := "load"

/-- Two words around the first slash. -/
def entities? (s : List Char) : Option (UInt64 × UInt64) := do
  match s.dropWhile (· ≠ '/') with
  | [] => none
  | _ :: total => some (← signedWord? (s.takeWhile (· ≠ '/')), ← signedWord? total)

/-- Reads the first five fields; whatever follows them is ignored. -/
def ofText? (s : List Char) : Option LoadAverage := do
  match words s with
  | one :: five :: fifteen :: entities :: last :: _ =>
    let (executing, total) ← entities? entities
    some ⟨← double? one, ← double? five, ← double? fifteen, executing, total,
      ← signedWord? last⟩
  | _ => none

/-- The readings of one tick. -/
def measurements (l : LoadAverage) (tick : Timestamp) : List Measurement :=
  [⟨tick, collectorName, ["1m"], .floatGauge l.one, .none⟩,
    ⟨tick, collectorName, ["5m"], .floatGauge l.five, .none⟩,
    ⟨tick, collectorName, ["15m"], .floatGauge l.fifteen, .none⟩,
    ⟨tick, collectorName, ["scheduling", "entities", "executing"], .gauge l.executing,
      .processes⟩,
    ⟨tick, collectorName, ["scheduling", "entities", "total"], .gauge l.total, .processes⟩,
    ⟨tick, collectorName, ["pid", "last"], .gauge l.lastProcess, .none⟩]

/-- The readings of a tick, none if the line is missing, not a text, or malformed. -/
def poll (content : Option (List Char)) (tick : Timestamp) : List Measurement :=
  (content.bind ofText?).elim [] (·.measurements tick)

end LoadAverage

end MetricAgent.Collector
