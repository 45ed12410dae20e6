import MetricAgent.SystemError

/-!
Why a collector cannot be built or cannot go on.
-/

namespace MetricAgent.Collector

open Text

inductive CollectorError where
  | system (e : SystemError)
  | queueClosed
  | config (message : String)
  | unknown (name : String)
  deriving DecidableEq, Repr

namespace CollectorError

def message : CollectorError → String
  | system e => "io error: " ++ e.message
  | queueClosed => "measurement queue closed"
  | config s => "config error: " ++ s
  | unknown s => "unknown collector: " ++ s

/-- The error with its kind. -/
def describe : CollectorError → String
  | system e => "Io(" ++ e.describe ++ ")"
  | queueClosed => "QueueClosed"
  | config s => "Config(" ++ quote s ++ ")"
  | unknown s => "Unknown(" ++ quote s ++ ")"

end CollectorError

end MetricAgent.Collector
