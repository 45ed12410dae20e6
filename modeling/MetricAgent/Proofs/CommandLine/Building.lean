import MetricAgent.CommandLine.Start
import MetricAgent.Proofs.Collector.Selection
import MetricAgent.Proofs.Config.Validation
import MetricAgent.Proofs.Http.Target

/-!
What a configuration builds. The checks of a configuration and the building of its components read
the same listen address and the same URL, each only where the component is selected. What is valid
can be read when it is built, and a component that is not selected does not count.
-/

namespace MetricAgent

open Config Collector Http

/-! ### Messages about listen addresses -/

namespace Listen

open Text

lemma message_format (s : String) : (AddressError.format s).message =
    "listen address " ++ quote s ++ " is not in the correct format; " ++ formatHint := rfl

lemma message_transport (s : String) : (AddressError.transport s).message =
    "unknown listen transport " ++ quote s ++ "; " ++ formatHint := rfl

lemma toList_quote (s : String) :
    (quote s).toList = '"' :: (s.toList.flatMap quoteChar ++ ['"']) := by
  rw [quote, String.toList_ofList, List.cons_append]

lemma text_ne_message (a : Address) (s : String) (e : AddressError) :
    "listen address " ++ a.text ++ s ≠ e.message := by
  cases e with
  | format t =>
    rw [message_format, Ne, ← String.toList_inj]
    simp only [String.toList_append, toList_quote, List.append_assoc]
    refine fun h => ?_
    -- behind what both say, one goes on with a transport and the other with a quotation mark
    have hrest := List.append_cancel_left h
    obtain ⟨transport, address⟩ := a
    cases transport <;> simp [Address.text, Transport.text] at hrest
  | transport t =>
    rw [message_transport, Ne, ← String.toList_inj]
    simp [String.toList_append, toList_quote]

lemma transport_ne_message (s : String) (e : AddressError) :
    "listen transport " ++ s ≠ e.message := by
  cases e with
  | format t =>
    rw [message_format, Ne, ← String.toList_inj]
    simp [String.toList_append, toList_quote]
  | transport t =>
    rw [message_transport, Ne, ← String.toList_inj]
    simp [String.toList_append, toList_quote]

lemma bindNetwork_ne_misread (a : Address) (e : AddressError) :
    bindNetwork a ≠ .error (.config e.message) := by
  unfold bindNetwork
  cases resolve a.address.toList with
  | error s => nofun
  | ok h =>
    change (if (!h.suits a.transport) = true then _ else if h.isLocal = true then _ else _) ≠ _
    split
    next =>
      refine fun heq => ?_
      have hmessage := CollectorError.config.inj (Except.error.inj heq)
      simp only [String.append_assoc] at hmessage
      exact text_ne_message a _ e ((String.append_assoc ..).trans hmessage)
    next => split <;> nofun

lemma bind_ne_misread (s : Sockets) (base : Path) (identity : Nat) (a : Address)
    (e : AddressError) : Listen.bind s base identity a ≠ .error (.config e.message) := by
  have hnetwork : (bindNetwork a).map (·, s) ≠ .error (.config e.message) := by
    have hne := bindNetwork_ne_misread a e
    cases hb : bindNetwork a with
    | error e' =>
      rw [hb] at hne
      exact fun heq => hne (congrArg _ (Except.error.inj heq))
    | ok b => nofun
  unfold Listen.bind
  split
  · exact hnetwork
  · exact hnetwork
  · exact hnetwork
  · split <;> nofun
  · refine fun heq => ?_
    have hmessage := CollectorError.config.inj (Except.error.inj heq)
    rw [String.append_assoc] at hmessage
    exact transport_ne_message _ e hmessage

end Listen

/-! ### Building collectors -/

namespace Collector

open Listen

variable {w : Workshop} {names : List String} {isStrict : Bool} {e : AddressError}

lemma buildListener_of_parse {a : Address} (h : Address.parse w.config.listen.address = .ok a) :
    (buildListener w).1 = (Listen.bind w.sockets w.base w.identity a).map fun _ =>
      listenCollector w.config.listen.reportStats := by
  unfold buildListener
  rw [h]
  cases hb : Listen.bind w.sockets w.base w.identity a with
  | error e => simp only [hb]; rfl
  | ok p => simp only [hb]; rfl

lemma config_buildListener (w : Workshop) : (buildListener w).2.config = w.config := by
  unfold buildListener
  split
  · rfl
  · split <;> rfl

lemma not_parse_of_misread (h : (buildListener w).1 = .error (.config e.message)) (a : Address) :
    Address.parse w.config.listen.address ≠ .ok a := by
  intro ha
  rw [buildListener_of_parse ha] at h
  have hne := bind_ne_misread w.sockets w.base w.identity a e
  cases hb : Listen.bind w.sockets w.base w.identity a with
  | error e' =>
    rw [hb] at h hne
    exact hne (congrArg _ (Except.error.inj h))
  | ok p =>
    rw [hb] at h
    cases h

lemma misread_of_select (h : (select names isStrict w).1 = .error (.config e.message)) :
    collectorName ∈ names ∧ ∀ a, Address.parse w.config.listen.address ≠ .ok a := by
  have hkeep (name : String) (build : Factory Workshop) (w' : Workshop)
      (hf : knownCollectors.lookup name = some build) (hw : w'.config = w.config) :
      (build w').2.config = w.config := by
    rcases of_lookup_knownCollectors hf with ⟨-, rfl⟩ | ⟨-, c, -, rfl⟩
    · exact (config_buildListener w').trans hw
    · exact hw
  obtain ⟨name, hmem, hunknown | ⟨build, w', hf, hw, herror⟩⟩ :=
    Registry.fromNames_eq_error hkeep (rfl : w.config = w.config) h
  · cases hunknown
  · rcases of_lookup_knownCollectors hf with ⟨rfl, rfl⟩ | ⟨-, c, -, rfl⟩
    · exact ⟨hmem, hw ▸ not_parse_of_misread herror⟩
    · cases herror

/-- The same workshop for another configuration. -/
def Workshop.mapConfig (f : AgentConfig → AgentConfig) (w : Workshop) : Workshop :=
  { w with config := f w.config }

lemma buildListener_mapConfig {f : AgentConfig → AgentConfig} (hf : ∀ c, (f c).listen = c.listen)
    (w : Workshop) :
    buildListener (w.mapConfig f) = ((buildListener w).1, (buildListener w).2.mapConfig f) := by
  have hlisten : (w.mapConfig f).config.listen = w.config.listen := hf w.config
  unfold buildListener
  rw [hlisten]
  cases Address.parse w.config.listen.address with
  | error e => rfl
  | ok a =>
    have hbind : Listen.bind (w.mapConfig f).sockets (w.mapConfig f).base
        (w.mapConfig f).identity a = Listen.bind w.sockets w.base w.identity a := rfl
    simp only [hbind]
    cases Listen.bind w.sockets w.base w.identity a with
    | error e => rfl
    | ok p => rfl

/-- Settings of the listener are looked at only where it is selected, and no others are. -/
lemma select_mapConfig {f : AgentConfig → AgentConfig}
    (hf : collectorName ∈ names → ∀ c, (f c).listen = c.listen) (w : Workshop) :
    select names isStrict (w.mapConfig f) =
      ((select names isStrict w).1, (select names isStrict w).2.mapConfig f) := by
  refine Registry.fromNames_map (fun name hmem build hbuild w' => ?_) .empty w
  rcases of_lookup_knownCollectors hbuild with ⟨rfl, rfl⟩ | ⟨-, c, -, rfl⟩
  · exact buildListener_mapConfig (hf hmem) w'
  · rfl

end Collector

/-! ### Building outputs -/

namespace Output

variable {c : AgentConfig} {e : TargetError}

lemma build_of_ne (h : c.output ≠ .http) (s : HttpConfig) :
    Output.build { c with http := s } = Output.build c := by
  cases ho : c.output with
  | http => exact absurd ho h
  | stdoutRaw => simp only [Output.build, ho]; rfl
  | stdoutDerived => simp only [Output.build, ho]; rfl

lemma build_eq_error : Output.build c = .error e ↔ c.output = .http ∧
    ((∃ e', Url.parse c.http.url.toList = .error e' ∧ .malformed e' = e) ∨
      ∃ u, Url.parse c.http.url.toList = .ok u ∧ u.allowsCredentials = false ∧
        .noCredentials = e) := by
  cases ho : c.output with
  | stdoutRaw => exact iff_of_false (by simp [Output.build, ho]) nofun
  | stdoutDerived => exact iff_of_false (by simp [Output.build, ho]) nofun
  | http =>
    rw [← Delivery.ofConfig_eq_error (o := payloadOptions c), and_iff_right rfl]
    simp only [Output.build, ho, delivery]
    cases Delivery.ofConfig c.http (payloadOptions c) <;> simp [Except.map]

end Output

lemma Url.allowsCredentials_eq_false {u : Url} : u.allowsCredentials = false ↔
    Url.isFile u.scheme = true ∨ ∀ h, u.host = some h → h.text = [] := by
  unfold allowsCredentials
  cases u.host with
  | none => simp
  | some h => cases isFile u.scheme <;> simp

/-! ### Starting with a configuration -/

namespace CommandLine

variable {c : AgentConfig} {site : Site}

/-- What a configuration with all settings comes to: it is checked, and then it is built. -/
def launch (site : Site) (c : AgentConfig) : Outcome :=
  match c.validate with
  | .error e => .failed (.config (.invalid e))
  | .ok c => build site c

/-- The same outcome for another configuration. -/
def Outcome.mapConfig (f : AgentConfig → AgentConfig) : Outcome → Outcome
  | .ready a => .ready { a with config := f a.config, workshop := a.workshop.mapConfig f }
  | o => o

lemma launch_of_isValid (h : c.IsValid) (site : Site) : launch site c = build site c := by
  rw [launch, AgentConfig.validate_iff_isValid.mpr h]

lemma launch_of_fault {e : Fault} (h : c.fault? = some e) (site : Site) :
    launch site c = .failed (.config (.invalid e)) := by
  rw [launch, AgentConfig.validate_eq_error.mpr h]

/-- A start does not see a change of settings that neither the checks nor the components see. -/
lemma launch_mapConfig {f : AgentConfig → AgentConfig} (hfault : (f c).fault? = c.fault?)
    (hcapacity : (f c).channelCapacity = c.channelCapacity)
    (houtput : Output.build (f c) = Output.build c)
    (hurl : ∀ e, Output.build c = .error e → (f c).http.url = c.http.url)
    (hnames : (f c).collectors = c.collectors)
    (hstrict : (f c).strictCollectors = c.strictCollectors)
    (hlisten : Listen.collectorName ∈ c.collectors → ∀ c, (f c).listen = c.listen) :
    launch site (f c) = (launch site c).mapConfig f := by
  cases hf : c.fault? with
  | some e => rw [launch_of_fault hf, launch_of_fault (hfault.trans hf)]; rfl
  | none =>
    rw [launch_of_isValid (AgentConfig.fault?_eq_none.mp hf),
      launch_of_isValid (AgentConfig.fault?_eq_none.mp (hfault.trans hf))]
    let w : Workshop := ⟨c, site.sockets, site.base, site.identity, none⟩
    have hw : (⟨f c, site.sockets, site.base, site.identity, none⟩ : Workshop) =
        w.mapConfig f := rfl
    unfold build
    rw [hcapacity, houtput, hnames, hstrict]
    split
    next => rfl
    next =>
      cases ho : Output.build c with
      | error e =>
        simp only [hurl e ho]
        rfl
      | ok o =>
        simp only [hw, select_mapConfig hlisten]
        rcases select c.collectors c.strictCollectors w with ⟨e | r, w'⟩
        · rfl
        · rfl

lemma launch_withListen (h : Listen.collectorName ∉ c.collectors) (site : Site) (l : ListenConfig) :
    launch site { c with listen := l } =
      (launch site c).mapConfig fun c => { c with listen := l } := by
  have hnone (l : ListenConfig) : ({ c with listen := l } : AgentConfig).listenFault = none :=
    AgentConfig.listenFault_eq_none.mpr fun hmem => absurd hmem h
  refine launch_mapConfig (f := fun c => { c with listen := l }) ?_ rfl rfl (fun _ _ => rfl) rfl rfl
    fun hmem => absurd hmem h
  unfold AgentConfig.fault?
  rw [hnone l, hnone c.listen]
  rfl

lemma launch_withHttp (h : c.output ≠ .http) (site : Site) (s : HttpConfig) :
    launch site { c with http := s } = (launch site c).mapConfig fun c => { c with http := s } := by
  have hnone (s : HttpConfig) : ({ c with http := s } : AgentConfig).httpFault = none :=
    AgentConfig.httpFault_eq_none.mpr fun hhttp => absurd hhttp h
  refine launch_mapConfig (f := fun c => { c with http := s }) ?_ rfl (Output.build_of_ne h s)
    (fun e he => ?_) rfl rfl fun _ _ => rfl
  · unfold AgentConfig.fault?
    rw [hnone s, hnone c.http]
    rfl
  · exact absurd (Output.build_eq_error.mp he).1 h

/--
**Validation agrees with building.** Of a valid configuration, a selected listener has an address
that can be read, so that it comes to what binding that address comes to; and the output fails to
be built exactly if measurements are delivered to a URL that is a file or has no host with a text.
Where building cannot read the URL or the address, the configuration is not valid. Settings of a
listener or of deliveries that are not selected do not change what a start comes to.
-/
theorem validation_agrees_with_building (c : AgentConfig) :
    (c.validate = .ok c →
      (Listen.collectorName ∈ c.collectors →
        ∃ a, Listen.Address.parse c.listen.address = .ok a ∧ ∀ w : Workshop, w.config = c →
          (buildListener w).1 = (Listen.bind w.sockets w.base w.identity a).map fun _ =>
            listenCollector c.listen.reportStats) ∧
      ((∃ e, Output.build c = .error e) ↔ c.output = .http ∧
        ∃ u, Url.parse c.http.url.toList = .ok u ∧
          (Url.isFile u.scheme = true ∨ ∀ h, u.host = some h → h.text = [])) ∧
      ∀ e, Output.build c = .error e → e.reason = "url cannot carry credentials") ∧
    (∀ e, Output.build c = .error (.malformed e) → ∃ f, c.validate = .error f) ∧
    (∀ (w : Workshop) (isStrict : Bool) (e : Listen.AddressError), w.config = c →
      (select c.collectors isStrict w).1 = .error (.config e.message) →
        ∃ f, c.validate = .error f) ∧
    (Listen.collectorName ∉ c.collectors → ∀ site l,
      launch site { c with listen := l } =
        (launch site c).mapConfig fun c => { c with listen := l }) ∧
    (c.output ≠ .http → ∀ site s,
      launch site { c with http := s } =
        (launch site c).mapConfig fun c => { c with http := s }) := by
  refine ⟨fun hc => ?valid, fun e he => ?url, fun w isStrict e hw he => ?address,
    launch_withListen, launch_withHttp⟩
  case valid =>
    have hvalid := AgentConfig.validate_iff_isValid.mp hc
    -- a URL that can be read leaves only one reason
    have herror (e : TargetError) : Output.build c = .error e ↔ c.output = .http ∧
        ∃ u, Url.parse c.http.url.toList = .ok u ∧ u.allowsCredentials = false ∧
          .noCredentials = e := by
      rw [Output.build_eq_error]
      refine and_congr_right fun hhttp => or_iff_right ?_
      obtain ⟨u, hu⟩ := hvalid.url hhttp
      rintro ⟨e', he', -⟩
      cases hu.symm.trans he'
    refine ⟨fun hmem => ?_, ?_, fun e he => ?_⟩
    · obtain ⟨a, ha⟩ := hvalid.address hmem
      refine ⟨a, ha, ?_⟩
      rintro w rfl
      exact buildListener_of_parse ha
    · simp only [herror, Url.allowsCredentials_eq_false]
      constructor
      · rintro ⟨e, hhttp, u, hu, hno, -⟩
        exact ⟨hhttp, u, hu, hno⟩
      · rintro ⟨hhttp, u, hu, hno⟩
        exact ⟨.noCredentials, hhttp, u, hu, hno, rfl⟩
    · obtain ⟨-, u, -, -, rfl⟩ := (herror e).mp he
      rfl
  case url =>
    refine AgentConfig.exists_fault fun hvalid => ?_
    obtain ⟨hhttp, ⟨e', he', -⟩ | ⟨u, -, -, hne⟩⟩ := Output.build_eq_error.mp he
    · obtain ⟨u, hu⟩ := hvalid.url hhttp
      cases hu.symm.trans he'
    · cases hne
  case address =>
    subst hw
    refine AgentConfig.exists_fault fun hvalid => ?_
    obtain ⟨hmem, hunread⟩ := misread_of_select he
    obtain ⟨a, ha⟩ := hvalid.address hmem
    exact hunread a ha

/-- Deliveries to a file, and a listener without an address that is not selected. -/
def toFile : AgentConfig :=
  { AgentConfig.default with
    collectors := ["load"]
    output := .http
    listen := ⟨"nowhere", false⟩
    http := { HttpConfig.default with url := "file:///metrics" } }

/-- The same with the listener selected. -/
def toFileListening : AgentConfig := { toFile with collectors := ["listen"] }

/-- Where it is built. -/
def toFileWorkshop : Workshop :=
  ⟨toFileListening, .ofTree (.ofDirectories []), [], 0, none⟩

lemma select_toFileListening :
    (select toFileListening.collectors false toFileWorkshop).1 =
      .error (.config (Listen.AddressError.format "nowhere").message) := by
  have hparse : Listen.Address.parse toFileWorkshop.config.listen.address =
      .error (.format "nowhere") := by decide +kernel
  change (Registry.fromNames _ false ["listen"] .empty toFileWorkshop).1 = _
  rw [Registry.fromNames_of_some List.not_mem_nil (by rfl), buildListener, hparse]

/-- The file has no place for a user, and the listener does not matter until it is selected. -/
theorem validation_agrees_with_building_toFile :
    toFile.validate = .ok toFile ∧
      (∃ e, Output.build toFile = .error e ∧ e.reason = "url cannot carry credentials") ∧
      (∀ site l, launch site { toFile with listen := l } =
        (launch site toFile).mapConfig fun c => { c with listen := l }) ∧
      ∃ f, toFileListening.validate = .error f := by
  have hvalid : toFile.validate = .ok toFile := AgentConfig.validate_eq_ok.mpr (by decide +kernel)
  obtain ⟨hbuilt, -, -, hlisten, -⟩ := validation_agrees_with_building toFile
  obtain ⟨-, -, haddress, -, -⟩ := validation_agrees_with_building toFileListening
  obtain ⟨-, hfails, hreason⟩ := hbuilt hvalid
  obtain ⟨e, he⟩ := hfails.mpr ⟨rfl, _, rfl, .inl (by decide +kernel)⟩
  exact ⟨hvalid, ⟨e, he, hreason e he⟩, hlisten (by decide),
    haddress toFileWorkshop false (.format "nowhere") rfl select_toFileListening⟩

end CommandLine

end MetricAgent
