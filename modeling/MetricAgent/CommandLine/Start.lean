import MetricAgent.Collector.Selection
import MetricAgent.CommandLine.Setting
import MetricAgent.Output.Selection

/-!
Starting the agent: settings, configuration, output and collectors, in this order. The first step
that fails ends the start.
-/

namespace MetricAgent.CommandLine

open Collector Config Http Output

/-- The configuration file that is read if no other is named; it may be missing. -/
def defaultPath : String := "configs/config.yaml"

def versionText : String := "vigil 0.1.0\n"

/-- The capacity from which on no queue can be made. -/
def capacityBound : Nat := 2305843009213693952

/-- Why the agent does not start. -/
inductive StartError where
  | config (e : ConfigError)
  | target (url : String) (e : TargetError)
  | collector (e : CollectorError)
  deriving DecidableEq, Repr

/-- The error with all that is known about it; nothing for a text that is no configuration. -/
def StartError.describe? : StartError → Option String
  | config .malformed => none
  | config e => some e.describe
  | target url e => some (e.describe url)
  | collector e => some e.describe

/-- An agent that is ready to serve. -/
structure Agent where
  config : AgentConfig
  output : Output
  registry : Registry
  workshop : Workshop

/-- What a start comes to. -/
inductive Outcome where
  | refused (r : Refusal)
  | failed (e : StartError)
  /-- No queue of the configured capacity can be made. -/
  | overflowed
  | ready (a : Agent)

/-- What the agent finds where it is started. -/
structure Site where
  env : Environment
  /-- What the text of a path leads to. -/
  file : String → FileState
  sockets : Listen.Sockets
  base : Path
  /-- The identity that the next file gets. -/
  identity : Nat

/-- The configuration with all settings, before it is checked. -/
def mergedConfig (site : Site) (g : Given) : Except ConfigError AgentConfig :=
  let read := match g.value? .config with
    | some path => read site.env path (site.file path)
    | none => readOrDefault site.env defaultPath (site.file defaultPath)
  read.map g.applyTo

/-- Builds what a checked configuration asks for. -/
def build (site : Site) (c : AgentConfig) : Outcome :=
  if capacityBound ≤ c.channelCapacity.toNat then .overflowed
  else
    match Output.build c with
    | .error e => .failed (.target c.http.url e)
    | .ok o =>
      match select c.collectors c.strictCollectors
          ⟨c, site.sockets, site.base, site.identity, none⟩ with
      | (.error e, _) => .failed (.collector e)
      | (.ok r, w) => .ready ⟨c, o, r, w⟩

/-- Starts the agent. -/
def start (site : Site) (args : List String) : Outcome :=
  match settings site.env args with
  | .error r => .refused r
  | .ok g =>
    match checked (mergedConfig site g) with
    | .error e => .failed (.config e)
    | .ok c => build site c

/-- The status with which the program ends after a start. -/
def Outcome.status : Outcome → Nat
  | refused .misused => 2
  | refused _ | ready _ => 0
  | failed _ => 1
  | overflowed => 101

/-- The lines that are written for some measurements; none if they are delivered. -/
def Agent.lines (a : Agent) (ms : List Measurement) : List String :=
  match a.output with
  | .writer f => (Output.lines f [] ms).filterMap id
  | .sender _ _ => []

end MetricAgent.CommandLine
