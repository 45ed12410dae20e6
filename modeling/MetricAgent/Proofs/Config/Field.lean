import Mathlib.Tactic.Common
import MetricAgent.Config.Load

/-!
The configuration field by field. A document that is read gives a value to every field that it
names; all other fields have their defaults.
-/

namespace MetricAgent.Config

open DocumentFormat Text Time

/-- A field of the configuration, of its listener or of its deliveries. -/
inductive Field where
  | interval
  | collectors
  | strictCollectors
  | output
  | namePrefix
  | source
  | channelCapacity
  | listenAddress
  | listenStats
  | httpUrl
  | httpUser
  | httpToken
  | batchSize
  | batchTimeout
  | networkTimeout
  | round
  | reportSize
  deriving DecidableEq, Repr

abbrev Field.Value : Field → Type
  | interval | batchTimeout | networkTimeout => Span
  | collectors => List String
  | output => OutputKind
  | namePrefix | source | httpUser | httpToken => Option String
  | channelCapacity | batchSize => UInt64
  | listenAddress | httpUrl => String
  | strictCollectors | listenStats | round | reportSize => Bool

/-- The value of a field. -/
def AgentConfig.get (c : AgentConfig) : (field : Field) → field.Value
  | .interval => c.interval
  | .collectors => c.collectors
  | .strictCollectors => c.strictCollectors
  | .output => c.output
  | .namePrefix => c.namePrefix
  | .source => c.source
  | .channelCapacity => c.channelCapacity
  | .listenAddress => c.listen.address
  | .listenStats => c.listen.reportStats
  | .httpUrl => c.http.url
  | .httpUser => c.http.user
  | .httpToken => c.http.token
  | .batchSize => c.http.batchSize
  | .batchTimeout => c.http.batchTimeout
  | .networkTimeout => c.http.networkTimeout
  | .round => c.http.round
  | .reportSize => c.http.reportSize

/-- The configuration with given values of its fields. -/
def AgentConfig.ofFields (v : (field : Field) → field.Value) : AgentConfig :=
  { interval := v .interval
    collectors := v .collectors
    strictCollectors := v .strictCollectors
    output := v .output
    namePrefix := v .namePrefix
    source := v .source
    channelCapacity := v .channelCapacity
    listen := ⟨v .listenAddress, v .listenStats⟩
    http :=
      { url := v .httpUrl
        user := v .httpUser
        token := v .httpToken
        batchSize := v .batchSize
        batchTimeout := v .batchTimeout
        networkTimeout := v .networkTimeout
        round := v .round
        reportSize := v .reportSize } }

lemma AgentConfig.ofFields_get (c : AgentConfig) : .ofFields c.get = c := rfl

/-! ### Documents -/

namespace Field

variable {ν : Type} (f : DocumentFormat ν)

/-- The part of a record under one of the names that it may have. -/
def part? (names : List String) (name : String) (v : ν) : Option ν :=
  (f.fields? names v).bind (·.lookup name)

/-- What stands for a field in a document. -/
def node? (v : ν) (field : Field) : Option ν :=
  let agent (name : String) := part? f agentFields name v
  let listen (name : String) := (agent "listen").bind (part? f listenFields name)
  let http (name : String) := (agent "http").bind (part? f httpFields name)
  match field with
  | interval => agent "interval"
  | collectors => agent "collectors"
  | strictCollectors => agent "strict_collectors"
  | output => agent "output"
  | namePrefix => agent "prefix"
  | source => agent "source"
  | channelCapacity => agent "channel_capacity"
  | listenAddress => listen "address"
  | listenStats => listen "meta"
  | httpUrl => http "url"
  | httpUser => http "user"
  | httpToken => http "token"
  | batchSize => http "batch_size"
  | batchTimeout => http "batch_timeout"
  | networkTimeout => http "network_timeout"
  | round => http "round"
  | reportSize => http "meta"

/-- The value that a part of a document has as the value of a field. -/
def read? : (field : Field) → ν → Option field.Value
  | interval | batchTimeout | networkTimeout => f.span?
  | collectors => fun v => (f.items? v).bind (·.mapM f.text?)
  | output => fun v => (f.choice? v).bind OutputKind.ofText?
  | namePrefix | source | httpUser | httpToken => f.optionalText?
  | channelCapacity | batchSize => f.word?
  | listenAddress | httpUrl => f.text?
  | strictCollectors | listenStats | round | reportSize => f.flag?

/-- The value that a document gives to a field. -/
def inDocument? (v : ν) (field : Field) : Option field.Value :=
  (field.node? f v).bind (field.read? f)

end Field

/-- The field is read where it is named, and has its default elsewhere. -/
def Field.IsRead {ν : Type} (f : DocumentFormat ν) (v : ν) (field : Field) (x : field.Value) :
    Prop :=
  (field.node? f v).elim (some (AgentConfig.default.get field)) (field.read? f) = some x

variable {ν : Type} {f : DocumentFormat ν} {v : ν}

lemma fieldOr_eq_elim {α : Type} (r : List (String × ν)) (name : String) (d : α)
    (read : ν → Option α) : fieldOr r name d read = (r.lookup name).elim (some d) read := by
  rw [fieldOr]
  cases r.lookup name <;> rfl

lemma elim_bind {α β : Type} {o : Option ν} {part : ν → Option ν} {d x : β}
    {readRecord : ν → Option β} {read : ν → Option α} (get : β → α)
    (h : o.elim (some d) readRecord = some x)
    (hpart : ∀ w, readRecord w = some x →
      (part w).elim (some (get d)) read = some (get x)) :
    (o.bind part).elim (some (get d)) read = some (get x) := by
  cases o with
  | none =>
    cases h
    rfl
  | some w => exact hpart w h

lemma Field.part?_of_fields? {names : List String} {r : List (String × ν)}
    (h : f.fields? names v = some r) (name : String) : part? f names name v = r.lookup name := by
  rw [part?, h, Option.bind_some]

/-- The fields of the listener are read where they are named in its record. -/
structure ListenConfig.IsRead (f : DocumentFormat ν) (v : ν) (c : ListenConfig) : Prop where
  address : (Field.part? f listenFields "address" v).elim (some default.address) f.text? =
    some c.address
  reportStats : (Field.part? f listenFields "meta" v).elim (some default.reportStats) f.flag? =
    some c.reportStats

/-- The fields of deliveries are read where they are named in their record. -/
structure HttpConfig.IsRead (f : DocumentFormat ν) (v : ν) (c : HttpConfig) : Prop where
  url : (Field.part? f httpFields "url" v).elim (some default.url) f.text? = some c.url
  user : (Field.part? f httpFields "user" v).elim (some default.user) f.optionalText? =
    some c.user
  token : (Field.part? f httpFields "token" v).elim (some default.token) f.optionalText? =
    some c.token
  batchSize : (Field.part? f httpFields "batch_size" v).elim (some default.batchSize) f.word? =
    some c.batchSize
  batchTimeout : (Field.part? f httpFields "batch_timeout" v).elim (some default.batchTimeout)
    f.span? = some c.batchTimeout
  networkTimeout : (Field.part? f httpFields "network_timeout" v).elim
    (some default.networkTimeout) f.span? = some c.networkTimeout
  round : (Field.part? f httpFields "round" v).elim (some default.round) f.flag? = some c.round
  reportSize : (Field.part? f httpFields "meta" v).elim (some default.reportSize) f.flag? =
    some c.reportSize

lemma ListenConfig.isRead_of_ofDocument? {c : ListenConfig}
    (h : ListenConfig.ofDocument? f v = some c) : c.IsRead f v := by
  simp only [ListenConfig.ofDocument?, Option.bind_eq_bind, Option.bind_eq_some_iff,
    fieldOr_eq_elim] at h
  obtain ⟨r, hr, address, haddress, stats, hstats, hc⟩ := h
  cases hc
  constructor <;> rw [Field.part?_of_fields? hr] <;> assumption

lemma HttpConfig.isRead_of_ofDocument? {c : HttpConfig}
    (h : HttpConfig.ofDocument? f v = some c) : c.IsRead f v := by
  simp only [HttpConfig.ofDocument?, Option.bind_eq_bind, Option.bind_eq_some_iff,
    fieldOr_eq_elim] at h
  obtain ⟨r, hr, url, hurl, user, huser, token, htoken, size, hsize, batch, hbatch, network,
    hnetwork, round, hround, report, hreport, hc⟩ := h
  cases hc
  constructor <;> rw [Field.part?_of_fields? hr] <;> assumption

lemma AgentConfig.isRead_of_ofDocument? {c : AgentConfig} (h : AgentConfig.ofDocument? f v = some c)
    (field : Field) : field.IsRead f v (c.get field) := by
  simp only [AgentConfig.ofDocument?, Option.bind_eq_bind, Option.bind_eq_some_iff,
    fieldOr_eq_elim] at h
  obtain ⟨r, hr, interval, hinterval, collectors, hcollectors, strict, hstrict, output, houtput,
    pre, hprefix, source, hsource, capacity, hcapacity, listen, hlisten, http, hhttp, hc⟩ := h
  cases hc
  have ofListen (w : ν) (hw : ListenConfig.ofDocument? f w = some listen) :=
    ListenConfig.isRead_of_ofDocument? hw
  have ofHttp (w : ν) (hw : HttpConfig.ofDocument? f w = some http) :=
    HttpConfig.isRead_of_ofDocument? hw
  unfold Field.IsRead
  simp only [Field.node?, Field.part?_of_fields? hr]
  cases field with
  | interval => exact hinterval
  | collectors => exact hcollectors
  | strictCollectors => exact hstrict
  | output => exact houtput
  | namePrefix => exact hprefix
  | source => exact hsource
  | channelCapacity => exact hcapacity
  | listenAddress =>
    exact elim_bind ListenConfig.address hlisten fun w hw => (ofListen w hw).address
  | listenStats =>
    exact elim_bind ListenConfig.reportStats hlisten fun w hw => (ofListen w hw).reportStats
  | httpUrl => exact elim_bind HttpConfig.url hhttp fun w hw => (ofHttp w hw).url
  | httpUser => exact elim_bind HttpConfig.user hhttp fun w hw => (ofHttp w hw).user
  | httpToken => exact elim_bind HttpConfig.token hhttp fun w hw => (ofHttp w hw).token
  | batchSize => exact elim_bind HttpConfig.batchSize hhttp fun w hw => (ofHttp w hw).batchSize
  | batchTimeout =>
    exact elim_bind HttpConfig.batchTimeout hhttp fun w hw => (ofHttp w hw).batchTimeout
  | networkTimeout =>
    exact elim_bind HttpConfig.networkTimeout hhttp fun w hw => (ofHttp w hw).networkTimeout
  | round => exact elim_bind HttpConfig.round hhttp fun w hw => (ofHttp w hw).round
  | reportSize => exact elim_bind HttpConfig.reportSize hhttp fun w hw => (ofHttp w hw).reportSize

lemma AgentConfig.get_of_ofDocument? {c : AgentConfig} (h : AgentConfig.ofDocument? f v = some c)
    (field : Field) : c.get field = (field.inDocument? f v).getD (default.get field) ∧
      ((field.node? f v).isSome → (field.inDocument? f v).isSome) := by
  have hread := isRead_of_ofDocument? h field
  unfold Field.IsRead at hread
  unfold Field.inDocument?
  cases hnode : field.node? f v with
  | none =>
    rw [hnode] at hread
    exact ⟨(Option.some.inj hread).symm, nofun⟩
  | some w =>
    rw [hnode, Option.elim_some] at hread
    rw [Option.bind_some, hread]
    exact ⟨rfl, fun _ => rfl⟩

/-! ### Files -/

/-- The document in a file, unless there is none or it says nothing at all. -/
def documentIn? (env : Environment) : FileState → Option Yaml.Document
  | .content bytes =>
    (String.fromUTF8? bytes).bind fun s =>
      let s := expand env s.toList
      if (trim s).isEmpty then none else Yaml.Document.ofText? s
  | _ => none

/-- The field is named in a file. -/
def Field.isNamedIn (env : Environment) (file : FileState) (field : Field) : Bool :=
  ((documentIn? env file).bind fun d =>
    field.node? (yamlFormat d) (d.root.getD .nothing)).isSome

/-- The value that a file gives to a field. -/
def Field.inFile? (env : Environment) (file : FileState) (field : Field) : Option field.Value :=
  (documentIn? env file).bind fun d => field.inDocument? (yamlFormat d) (d.root.getD .nothing)

variable {env : Environment} {path : String} {file : FileState} {c : AgentConfig}

/-- A file gives what it says about a field, and the default where it says nothing. -/
lemma get_of_read (h : read env path file = .ok c) (field : Field) :
    c.get field = (field.inFile? env file).getD (AgentConfig.default.get field) ∧
      (field.isNamedIn env file → (field.inFile? env file).isSome) := by
  cases file with
  | missing => cases h
  | refused e => cases h
  | content bytes =>
    unfold Config.read at h
    unfold Field.inFile? Field.isNamedIn documentIn?
    cases hs : String.fromUTF8? bytes with
    | none =>
      simp only [hs] at h
      cases h
    | some s =>
      simp only [hs, Option.bind_some, AgentConfig.ofText?] at h ⊢
      split at h
      next hblank =>
        cases h
        rw [if_pos hblank]
        exact ⟨rfl, nofun⟩
      next hblank =>
        rw [if_neg hblank]
        cases hd : Yaml.Document.ofText? (expand env s.toList) with
        | none =>
          rw [hd] at h
          cases h
        | some d =>
          rw [hd, Option.bind_some] at h
          cases hc : AgentConfig.ofYaml? d with
          | none =>
            rw [hc] at h
            cases h
          | some c' =>
            rw [hc] at h
            cases h
            exact AgentConfig.get_of_ofDocument? hc field

end MetricAgent.Config
