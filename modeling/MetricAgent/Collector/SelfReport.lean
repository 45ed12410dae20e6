import MetricAgent.Measurement
import MetricAgent.Queue

/-!
The agent's own vital signs: how full the shared queue is, and how long the agent has run.
-/

namespace MetricAgent.Collector.SelfReport

open Decimal Time

def collectorName : String := "self"

/-- The readings of one tick, for a queue as it was before they are put in. -/
def measurements (q : Queue Measurement) (uptime : Double) (tick : Timestamp) :
    List Measurement :=
  [⟨tick, collectorName, ["queue", "length"], .gauge (UInt64.ofNat q.length), .metrics⟩,
    ⟨tick, collectorName, ["queue", "capacity"], .gauge (UInt64.ofNat q.capacity), .metrics⟩,
    ⟨tick, collectorName, ["uptime", "seconds"], .floatGauge uptime, .seconds⟩]

end MetricAgent.Collector.SelfReport
