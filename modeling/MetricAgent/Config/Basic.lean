import MetricAgent.Text.Quoted
import MetricAgent.Time.Span

/-!
The configuration of the agent. Every field has a default.
-/

namespace MetricAgent.Config

open Decimal Text Time

/-- Where measurements go. -/
inductive OutputKind where
  | stdoutDerived
  | stdoutRaw
  | http
  deriving DecidableEq, Repr, Inhabited

namespace OutputKind

def all : List OutputKind := [stdoutDerived, stdoutRaw, http]

def text : OutputKind → String
  | stdoutDerived => "stdout-derived"
  | stdoutRaw => "stdout-raw"
  | http => "http"

/-- Finds an output by its text, letter for letter. -/
def ofText? (s : String) : Option OutputKind := all.find? (·.text = s)

end OutputKind

/-- How submissions are taken. -/
structure ListenConfig where
  address : String
  /-- Whether the listener reports its counts on every tick. -/
  reportStats : Bool
  deriving DecidableEq, Repr

/-- How batches are delivered. -/
structure HttpConfig where
  url : String
  user : Option String
  token : Option String
  batchSize : UInt64
  batchTimeout : Span
  networkTimeout : Span
  /-- Whether times are rounded to the interval of ticks. -/
  round : Bool
  /-- Whether a batch reports its own size. -/
  reportSize : Bool
  deriving DecidableEq, Repr

/-- The whole configuration. -/
structure AgentConfig where
  interval : Span
  collectors : List String
  strictCollectors : Bool
  output : OutputKind
  namePrefix : Option String
  source : Option String
  channelCapacity : UInt64
  listen : ListenConfig
  http : HttpConfig
  deriving DecidableEq, Repr

def ListenConfig.default : ListenConfig := ⟨"unix,/tmp/vigil.sock", false⟩

def HttpConfig.default : HttpConfig :=
  { url := "https://metrics-api.librato.com/v1/metrics"
    user := none
    token := none
    batchSize := 200
    batchTimeout := .ofMillis 500
    networkTimeout := .ofSeconds 2
    round := false
    reportSize := false }

def AgentConfig.default : AgentConfig :=
  { interval := .ofSeconds 10
    collectors := ["listen", "load", "self"]
    strictCollectors := false
    output := .stdoutDerived
    namePrefix := none
    source := none
    channelCapacity := 100
    listen := .default
    http := .default }

/-- A delivery configuration as logs show it, without the content of the token. -/
def HttpConfig.describe (c : HttpConfig) : String :=
  "HttpConfig \x7b url: " ++ quote c.url ++ ", user: " ++ quoteOption c.user ++ ", token: " ++
    quoteOption (c.token.map fun _ => "<redacted>") ++ ", batch_size: " ++
    Decimal.text c.batchSize.toNat ++ ", batch_timeout: " ++ c.batchTimeout.compact ++
    ", network_timeout: " ++ c.networkTimeout.compact ++ ", round: " ++ toString c.round ++
    ", meta: " ++ toString c.reportSize ++ " \x7d"

end MetricAgent.Config
