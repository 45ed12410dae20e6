import MetricAgent.Collector.LoadAverage
import MetricAgent.Collector.Registry
import MetricAgent.Collector.SelfReport
import MetricAgent.Config.Validation
import MetricAgent.Listen.Bind

/-!
Building the collectors that a list of names asks for. Of a name that occurs more than once only the
last occurrence counts, so that nothing is built that would be replaced at once.
-/

namespace MetricAgent.Collector

open Config Time

abbrev Factory (σ : Type) := σ → Except CollectorError Collector × σ

/-- Builds the collectors of some names. Unknown names are passed over, or refused if asked. -/
def Registry.fromNames {σ : Type} (factory? : String → Option (Factory σ)) (isStrict : Bool) :
    List String → Registry → σ → Except CollectorError Registry × σ
  | [], r, s => (.ok r, s)
  | name :: names, r, s =>
    if names.contains name then fromNames factory? isStrict names r s
    else
      match factory? name with
      | none =>
        if isStrict then (.error (.unknown name), s) else fromNames factory? isStrict names r s
      | some build =>
        match build s with
        | (.error e, s) => (.error e, s)
        | (.ok c, s) => fromNames factory? isStrict names (r.register c) s

/-- The last occurrence of each name. -/
def lastOccurrences : List String → List String
  | [] => []
  | name :: names =>
    if names.contains name then lastOccurrences names else name :: lastOccurrences names

/-- The names that make way for a later occurrence. -/
def repeated : List String → List String
  | [] => []
  | name :: names => if names.contains name then name :: repeated names else repeated names

/-! ### The known collectors -/

/-- Where collectors are built. -/
structure Workshop where
  config : AgentConfig
  sockets : Listen.Sockets
  /-- Where relative paths start. -/
  base : Path
  /-- The identity that the next file gets. -/
  identity : Nat
  /-- What the listener listens on, once it is built. -/
  binding : Option Listen.Binding

/-- A poll that takes no time and sends some readings. -/
def Poll.instant (readings : List Measurement) : Poll := ⟨.zero, readings, .done⟩

def listenCollector (reportStats : Bool) : Collector where
  name := Listen.collectorName
  poll _ time around _ :=
    .instant (if reportStats then around.stats.measurements time else [])

def loadCollector : Collector where
  name := LoadAverage.collectorName
  poll _ time around _ := .instant (LoadAverage.poll around.load time)

def selfCollector : Collector where
  name := SelfReport.collectorName
  poll _ time around q := .instant (SelfReport.measurements q around.uptime time)

/-- Binds the listener to the address of the configuration. -/
def buildListener : Factory Workshop := fun w =>
  match Listen.Address.parse w.config.listen.address with
  | .error e => (.error (.config e.message), w)
  | .ok a =>
    match Listen.bind w.sockets w.base w.identity a with
    | .error e => (.error e, w)
    | .ok (b, s) =>
      (.ok (listenCollector w.config.listen.reportStats),
        { w with sockets := s, binding := some b })

/-- The names of the known collectors and how each is built. -/
def knownCollectors : List (String × Factory Workshop) :=
  [(Listen.collectorName, buildListener),
    (LoadAverage.collectorName, fun w => (.ok loadCollector, w)),
    (SelfReport.collectorName, fun w => (.ok selfCollector, w))]

def knownNames : List String := knownCollectors.map Prod.fst

/-- Builds the known collectors among some names. -/
def select (names : List String) (isStrict : Bool) (w : Workshop) :
    Except CollectorError Registry × Workshop :=
  Registry.fromNames (fun name => knownCollectors.lookup name) isStrict names .empty w

/-- The names that are passed over because they are unknown. -/
def skipped (names : List String) : List String :=
  (lastOccurrences names).filter fun n => !knownNames.contains n

end MetricAgent.Collector
