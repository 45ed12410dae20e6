import MetricAgent.Config.Basic
import MetricAgent.Listen.Address
import MetricAgent.Url.Basic

/-!
When a configuration can be run. Parts that are not selected are not looked at, and the first fault
in the order of the fields is the one that is reported.
-/

namespace MetricAgent.Config

/-- What is wrong with a configuration. -/
inductive Fault where
  | zeroInterval
  | zeroCapacity
  | listenAddress (e : Listen.AddressError)
  | zeroBatchSize
  | zeroBatchTimeout
  | url (e : Url.UrlError)
  deriving DecidableEq, Repr

def Fault.message : Fault → String
  | zeroInterval => "interval must be non-zero"
  | zeroCapacity => "channel_capacity must be positive"
  | listenAddress e => "listen.address: " ++ e.message
  | zeroBatchSize => "http.batch_size must be positive"
  | zeroBatchTimeout => "http.batch_timeout must be non-zero"
  | url e => "http.url: " ++ e.message

/-- The fault of the listen address, if a listener is selected. -/
def AgentConfig.listenFault (c : AgentConfig) : Option Fault :=
  if c.collectors.contains Listen.collectorName then
    match Listen.Address.parse c.listen.address with
    | .ok _ => none
    | .error e => some (.listenAddress e)
  else none

/-- The first fault of the delivery settings, if they are selected. -/
def AgentConfig.httpFault (c : AgentConfig) : Option Fault :=
  if c.output = .http then
    if c.http.batchSize = 0 then some .zeroBatchSize
    else if c.http.batchTimeout.isZero then some .zeroBatchTimeout
    else
      match Url.parse c.http.url.toList with
      | .ok _ => none
      | .error e => some (.url e)
  else none

/-- The first fault, or nothing. -/
def AgentConfig.fault? (c : AgentConfig) : Option Fault :=
  if c.interval.isZero then some .zeroInterval
  else if c.channelCapacity = 0 then some .zeroCapacity
  else c.listenFault <|> c.httpFault

/-- The same configuration if it has no fault. -/
def AgentConfig.validate (c : AgentConfig) : Except Fault AgentConfig :=
  c.fault?.elim (.ok c) .error

end MetricAgent.Config
