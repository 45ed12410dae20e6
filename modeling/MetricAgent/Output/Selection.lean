import MetricAgent.Http.Batcher
import MetricAgent.Http.Delivery
import MetricAgent.Output.Lines

/-!
The output that a configuration selects: lines, or deliveries of batches.
-/

namespace MetricAgent

open Config Http

/-- A consumer of the shared queue: a writer of lines, or a sender of batches. -/
inductive Output where
  | writer (f : Output.LineFormat)
  | sender (limits : BatchLimits) (d : Delivery)

namespace Output

def name : Output → String
  | writer f => f.name
  | sender _ _ => "http"

/-- Lines in raw or derived mode. -/
def lineFormat (c : AgentConfig) (derived : Bool) : LineFormat :=
  ⟨c.namePrefix, c.source, derived, LineFormat.defaultHistoryLimit⟩

/-- How a configuration has measurements delivered. -/
def payloadOptions (c : AgentConfig) : PayloadOptions :=
  { namePrefix := c.namePrefix
    source := c.source
    round := if c.http.round then some c.interval else none
    reportSize := c.http.reportSize }

def batchLimits (c : AgentConfig) : BatchLimits :=
  .ofSize c.http.batchSize.toNat c.http.batchTimeout.nanos

/-- The delivery of a configuration. -/
def delivery (c : AgentConfig) : Except TargetError Delivery :=
  Delivery.ofConfig c.http (payloadOptions c)

/-- Builds the selected output. -/
def build (c : AgentConfig) : Except TargetError Output :=
  match c.output with
  | .stdoutRaw => .ok (.writer (lineFormat c false))
  | .stdoutDerived => .ok (.writer (lineFormat c true))
  | .http => (delivery c).map (.sender (batchLimits c))

/-- The batches of a queue that is closed behind its measurements. -/
def batches (l : BatchLimits) (ms : List Measurement) : Batcher Measurement :=
  (Batcher.start.receiveAll l ms).close

end Output

end MetricAgent
