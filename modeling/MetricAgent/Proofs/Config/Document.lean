import MetricAgent.Config.Document
import MetricAgent.Config.Validation
import MetricAgent.Proofs.Json.Reader
import MetricAgent.Proofs.Time.Human

/-!
Configurations that are written and read. Every value reads back from the form in which it is
written, every field stands once under a name of its own, and so a configuration reads back whole.
-/

namespace MetricAgent.Config

open DocumentFormat Json Time

/-! ### Values of fields -/

lemma text?_string (s : String) : jsonFormat.text? (.string s) = some s := rfl

lemma flag?_bool (b : Bool) : jsonFormat.flag? (.bool b) = some b := rfl

lemma optionalText?_optionalJson (s : Option String) :
    jsonFormat.optionalText? (optionalJson s) = some s := by
  cases s <;> rfl

lemma word?_whole (n : UInt64) : jsonFormat.word? (.whole n.toNat) = some n := by
  have hlt : n.toNat < Decimal.wordBound := n.toNat_lt
  simp [jsonFormat, hlt]

lemma span?_toHuman (d : Span) : jsonFormat.span? (.string d.toHuman) = some d := by
  change (Span.ofHuman d.toHuman.toList).toOption = some d
  rw [Span.ofHuman_toHuman]
  rfl

lemma mapM_text? (ss : List String) : (ss.map Value.string).mapM jsonFormat.text? = some ss := by
  induction ss with
  | nil => rfl
  | cons s ss ih =>
    rw [List.map_cons, List.mapM_cons, ih]
    rfl

lemma ofText?_text (o : OutputKind) : OutputKind.ofText? o.text = some o := by
  cases o <;> decide

/-! ### Records -/

lemma fieldOr_of_lookup {ν α : Type} {fields : List (String × ν)} {name : String} {v : ν}
    {read : ν → Option α} {a : α} (fallback : α) (hv : fields.lookup name = some v)
    (ha : read v = some a) : fieldOr fields name fallback read = some a := by
  rw [fieldOr, hv]
  exact ha

lemma ListenConfig.ofDocument?_toJson (c : ListenConfig) :
    ListenConfig.ofDocument? jsonFormat c.toJson = some c := rfl

lemma HttpConfig.ofDocument?_toJson (c : HttpConfig) :
    HttpConfig.ofDocument? jsonFormat c.toJson = some c := by
  obtain ⟨r, hr, hurl, huser, htoken, hsize, hbatch, hnetwork, hround, hmeta⟩ :
      ∃ r, jsonFormat.fields? httpFields c.toJson = some r ∧
        r.lookup "url" = some (.string c.url) ∧ r.lookup "user" = some (optionalJson c.user) ∧
        r.lookup "token" = some (optionalJson c.token) ∧
        r.lookup "batch_size" = some (.whole c.batchSize.toNat) ∧
        r.lookup "batch_timeout" = some (.string c.batchTimeout.toHuman) ∧
        r.lookup "network_timeout" = some (.string c.networkTimeout.toHuman) ∧
        r.lookup "round" = some (.bool c.round) ∧ r.lookup "meta" = some (.bool c.reportSize) :=
    ⟨_, rfl, rfl, rfl, rfl, rfl, rfl, rfl, rfl, rfl⟩
  simp only [HttpConfig.ofDocument?, hr, Option.bind_eq_bind, Option.bind_some]
  rw [fieldOr_of_lookup _ hurl (text?_string c.url),
    fieldOr_of_lookup _ huser (optionalText?_optionalJson c.user),
    fieldOr_of_lookup _ htoken (optionalText?_optionalJson c.token),
    fieldOr_of_lookup _ hsize (word?_whole c.batchSize),
    fieldOr_of_lookup _ hbatch (span?_toHuman c.batchTimeout),
    fieldOr_of_lookup _ hnetwork (span?_toHuman c.networkTimeout),
    fieldOr_of_lookup _ hround (flag?_bool c.round),
    fieldOr_of_lookup _ hmeta (flag?_bool c.reportSize)]
  rfl

lemma AgentConfig.ofDocument?_toJson (c : AgentConfig) :
    AgentConfig.ofDocument? jsonFormat c.toJson = some c := by
  obtain ⟨r, hr, hinterval, hcollectors, hstrict, houtput, hprefix, hsource, hcapacity, hlisten,
      hhttp⟩ :
      ∃ r, jsonFormat.fields? agentFields c.toJson = some r ∧
        r.lookup "interval" = some (.string c.interval.toHuman) ∧
        r.lookup "collectors" = some (.array (c.collectors.map .string)) ∧
        r.lookup "strict_collectors" = some (.bool c.strictCollectors) ∧
        r.lookup "output" = some (.string c.output.text) ∧
        r.lookup "prefix" = some (optionalJson c.namePrefix) ∧
        r.lookup "source" = some (optionalJson c.source) ∧
        r.lookup "channel_capacity" = some (.whole c.channelCapacity.toNat) ∧
        r.lookup "listen" = some c.listen.toJson ∧ r.lookup "http" = some c.http.toJson :=
    ⟨_, rfl, rfl, rfl, rfl, rfl, rfl, rfl, rfl, rfl, rfl⟩
  simp only [AgentConfig.ofDocument?, hr, Option.bind_eq_bind, Option.bind_some]
  rw [fieldOr_of_lookup _ hinterval (span?_toHuman c.interval),
    fieldOr_of_lookup _ hcollectors (mapM_text? c.collectors),
    fieldOr_of_lookup _ hstrict (flag?_bool c.strictCollectors),
    fieldOr_of_lookup _ houtput (ofText?_text c.output),
    fieldOr_of_lookup _ hprefix (optionalText?_optionalJson c.namePrefix),
    fieldOr_of_lookup _ hsource (optionalText?_optionalJson c.source),
    fieldOr_of_lookup _ hcapacity (word?_whole c.channelCapacity),
    fieldOr_of_lookup _ hlisten c.listen.ofDocument?_toJson,
    fieldOr_of_lookup _ hhttp c.http.ofDocument?_toJson]
  rfl

/-! ### Texts -/

lemma isFinite_optionalJson (s : Option String) : (optionalJson s).IsFinite := by
  cases s with
  | none => exact .null
  | some s => exact .string s

lemma ListenConfig.isFinite_toJson (c : ListenConfig) : c.toJson.IsFinite := by
  refine .object ?_
  simp only [List.forall_mem_cons, List.not_mem_nil, false_imp_iff, implies_true, and_true]
  exact ⟨.string _, .bool _⟩

lemma HttpConfig.isFinite_toJson (c : HttpConfig) : c.toJson.IsFinite := by
  refine .object ?_
  simp only [List.forall_mem_cons, List.not_mem_nil, false_imp_iff, implies_true, and_true]
  exact ⟨.string _, isFinite_optionalJson _, isFinite_optionalJson _, .whole _, .string _,
    .string _, .bool _, .bool _⟩

lemma AgentConfig.isFinite_toJson (c : AgentConfig) : c.toJson.IsFinite := by
  have hcollectors : (Value.array (c.collectors.map .string)).IsFinite := by
    refine .array fun v hv => ?_
    obtain ⟨s, -, rfl⟩ := List.mem_map.mp hv
    exact .string s
  refine .object ?_
  simp only [List.forall_mem_cons, List.not_mem_nil, false_imp_iff, implies_true, and_true]
  exact ⟨.string _, hcollectors, .bool _, .string _, isFinite_optionalJson _,
    isFinite_optionalJson _, .whole _, c.listen.isFinite_toJson, c.http.isFinite_toJson⟩

/--
**A configuration survives being written.** Read back as a value or from its text, it is the same in
every field, each span included; so it has the same first fault, or none.
-/
theorem read_of_written (c : AgentConfig) :
    AgentConfig.ofJson? c.toJson = some c ∧
      (Value.ofText? c.toJson.text).bind AgentConfig.ofJson? = some c ∧
      (∀ d : Span, Span.ofHuman d.toHuman.toList = .ok d) ∧
      (AgentConfig.ofJson? c.toJson).map AgentConfig.validate = some c.validate := by
  have hread : AgentConfig.ofJson? c.toJson = some c := c.ofDocument?_toJson
  refine ⟨hread, ?_, Span.ofHuman_toHuman, ?_⟩
  · rw [Value.ofText?_text c.isFinite_toJson, Option.bind_some, hread]
  · rw [hread, Option.map_some]

end MetricAgent.Config
