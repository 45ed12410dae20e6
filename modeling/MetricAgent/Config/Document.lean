import MetricAgent.Config.Basic
import MetricAgent.Json.Text
import MetricAgent.Time.Human

/-!
Configurations as documents: records with named fields, of which any may be missing and unknown ones
are passed over. What counts as a text, a flag or a number is up to the format of the document.
-/

namespace MetricAgent.Config

open Decimal Time

/-- How a format gives the values of a configuration; none where a value is of another kind. -/
structure DocumentFormat (ν : Type) where
  /-- The fields of a record, given the names that it may have in their order. -/
  record? : List String → ν → Option (List (String × ν))
  items? : ν → Option (List ν)
  text? : ν → Option String
  optionalText? : ν → Option (Option String)
  flag? : ν → Option Bool
  word? : ν → Option UInt64
  /-- The name of one of several choices. -/
  choice? : ν → Option String

namespace DocumentFormat

variable {ν α : Type} (f : DocumentFormat ν)

/-- A record without a known field that is given twice. -/
def knownOnce (names : List String) (fields : List (String × ν)) : Bool :=
  names.all fun n => (fields.filter (·.1 = n)).length ≤ 1

/-- The fields of a record that are known, each at most once. -/
def fields? (names : List String) (v : ν) : Option (List (String × ν)) :=
  (f.record? names v).filter (knownOnce names)

/-- The value of a field, or a default if it is missing. -/
def fieldOr (fields : List (String × ν)) (name : String) (fallback : α)
    (read : ν → Option α) : Option α :=
  match fields.lookup name with
  | none => some fallback
  | some v => read v

/-- A span in the form that people write. -/
def span? (v : ν) : Option Span :=
  (f.text? v).bind fun s => (Span.ofHuman s.toList).toOption

end DocumentFormat

def listenFields : List String := ["address", "meta"]

def httpFields : List String :=
  ["url", "user", "token", "batch_size", "batch_timeout", "network_timeout", "round", "meta"]

def agentFields : List String :=
  ["interval", "collectors", "strict_collectors", "output", "prefix", "source",
    "channel_capacity", "listen", "http"]

open DocumentFormat

/-- Reads the settings of the listener. -/
def ListenConfig.ofDocument? {ν : Type} (f : DocumentFormat ν) (v : ν) :
    Option ListenConfig := do
  let d := ListenConfig.default
  let r ← f.fields? listenFields v
  some
    { address := ← fieldOr r "address" d.address f.text?
      reportStats := ← fieldOr r "meta" d.reportStats f.flag? }

/-- Reads the settings of delivery. -/
def HttpConfig.ofDocument? {ν : Type} (f : DocumentFormat ν) (v : ν) : Option HttpConfig := do
  let d := HttpConfig.default
  let r ← f.fields? httpFields v
  some
    { url := ← fieldOr r "url" d.url f.text?
      user := ← fieldOr r "user" d.user f.optionalText?
      token := ← fieldOr r "token" d.token f.optionalText?
      batchSize := ← fieldOr r "batch_size" d.batchSize f.word?
      batchTimeout := ← fieldOr r "batch_timeout" d.batchTimeout f.span?
      networkTimeout := ← fieldOr r "network_timeout" d.networkTimeout f.span?
      round := ← fieldOr r "round" d.round f.flag?
      reportSize := ← fieldOr r "meta" d.reportSize f.flag? }

/-- Reads a configuration. -/
def AgentConfig.ofDocument? {ν : Type} (f : DocumentFormat ν) (v : ν) : Option AgentConfig := do
  let d := AgentConfig.default
  let r ← f.fields? agentFields v
  some
    { interval := ← fieldOr r "interval" d.interval f.span?
      collectors := ← fieldOr r "collectors" d.collectors fun v =>
        (f.items? v).bind (·.mapM f.text?)
      strictCollectors := ← fieldOr r "strict_collectors" d.strictCollectors f.flag?
      output := ← fieldOr r "output" d.output fun v => (f.choice? v).bind OutputKind.ofText?
      namePrefix := ← fieldOr r "prefix" d.namePrefix f.optionalText?
      source := ← fieldOr r "source" d.source f.optionalText?
      channelCapacity := ← fieldOr r "channel_capacity" d.channelCapacity f.word?
      listen := ← fieldOr r "listen" d.listen (ListenConfig.ofDocument? f)
      http := ← fieldOr r "http" d.http (HttpConfig.ofDocument? f) }

/-! ### JSON -/

open Json (Value)

/-- JSON documents. A record may be an array of its values, and a choice a field without value. -/
def jsonFormat : DocumentFormat Value where
  record? names v :=
    match v with
    | .object fields => some fields
    | .array items => if items.length ≤ names.length then some (names.zip items) else none
    | _ => none
  items? v := match v with | .array items => some items | _ => none
  text? v := match v with | .string s => some s | _ => none
  optionalText? v :=
    match v with | .null => some none | .string s => some (some s) | _ => none
  flag? v := match v with | .bool b => some b | _ => none
  word? v :=
    match v with
    | .whole n => if 0 ≤ n && n.toNat < wordBound then some (UInt64.ofNat n.toNat) else none
    | _ => none
  choice? v :=
    match v with | .string s => some s | .object [(s, .null)] => some s | _ => none

/-- Reads a JSON document; nothing at all stands for the defaults. -/
def AgentConfig.ofJson? : Value → Option AgentConfig
  | .null => some .default
  | v => AgentConfig.ofDocument? jsonFormat v

def optionalJson : Option String → Value := fun s => s.elim .null .string

def ListenConfig.toJson (c : ListenConfig) : Value :=
  .object [("address", .string c.address), ("meta", .bool c.reportStats)]

def HttpConfig.toJson (c : HttpConfig) : Value :=
  .object [("url", .string c.url), ("user", optionalJson c.user), ("token", optionalJson c.token),
    ("batch_size", .whole c.batchSize.toNat), ("batch_timeout", .string c.batchTimeout.toHuman),
    ("network_timeout", .string c.networkTimeout.toHuman), ("round", .bool c.round),
    ("meta", .bool c.reportSize)]

/-- Writes all fields of a configuration. -/
def AgentConfig.toJson (c : AgentConfig) : Value :=
  .object [("interval", .string c.interval.toHuman),
    ("collectors", .array (c.collectors.map .string)),
    ("strict_collectors", .bool c.strictCollectors), ("output", .string c.output.text),
    ("prefix", optionalJson c.namePrefix), ("source", optionalJson c.source),
    ("channel_capacity", .whole c.channelCapacity.toNat), ("listen", c.listen.toJson),
    ("http", c.http.toJson)]

end MetricAgent.Config
