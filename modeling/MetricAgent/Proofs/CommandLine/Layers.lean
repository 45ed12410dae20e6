import MetricAgent.Proofs.CommandLine.Building
import MetricAgent.Proofs.Config.Field

/-!
The layers of a configuration: arguments go before variables, these before the file, and the file
before the defaults, in each field for itself. Only what the layers come to is checked.
-/

namespace MetricAgent

open Config Text Time CommandLine Given

/-! ### Values of fields -/

/-- The setting that gives a field, if there is one. -/
def Config.Field.setting? : Field → Option Setting
  | interval => some .interval
  | collectors => some .collectors
  | output => some .output
  | namePrefix => some .namePrefix
  | source => some .source
  | listenAddress => some .listen
  | httpUrl => some .httpUrl
  | httpUser => some .httpUser
  | httpToken => some .httpToken
  | _ => none

/-- The value that the texts of a setting give to a field. -/
def Config.Field.ofTexts? : (field : Field) → List String → Option field.Value
  | interval, ts => ts.head?.bind fun t => (Span.ofArgument t.toList).toOption
  | collectors, ts => if ts.isEmpty then none else some (ts.flatMap splitNames)
  | output, ts => ts.head?.bind OutputKind.ofText?
  | namePrefix, ts | source, ts | httpUser, ts | httpToken, ts => ts.head?.map some
  | listenAddress, ts | httpUrl, ts => ts.head?
  | strictCollectors, _ | channelCapacity, _ | listenStats, _ | batchSize, _ | batchTimeout, _
  | networkTimeout, _ | round, _ | reportSize, _ => none

/-- The value that a field gets where every setting has some texts. -/
def Config.Field.given? (texts : Setting → List String) (field : Field) : Option field.Value :=
  field.setting?.bind fun s => field.ofTexts? (texts s)

lemma Config.Field.ofTexts?_nil (field : Field) : field.ofTexts? [] = none := by
  cases field <;> rfl

lemma Config.Field.isSome_ofTexts? {field : Field} {s : Setting} (hs : field.setting? = some s)
    {t : String} (ht : s.accepts t) (ts : List String) : (field.ofTexts? (t :: ts)).isSome := by
  cases field <;> cases hs <;> first | rfl | exact ht

namespace CommandLine

/-- The texts of settings in the variables. -/
def fromVariables (env : Environment) (s : Setting) : List String := (env s.variableName).toList

namespace Given

variable {g g' : Given} {s : Setting} {value : String} {env : Environment}

lemma has_eq (g : Given) (s : Setting) : g.has s = !(g.values s).isEmpty := by
  induction g with
  | nil => rfl
  | cons p g ih =>
    unfold has values at ih ⊢
    rw [List.any_cons, ih, List.filter_cons]
    split
    next h => simp [h]
    next h => simp [h]

lemma values_eq_nil : g.values s = [] ↔ g.has s = false := by
  rw [has_eq, Bool.not_eq_false', List.isEmpty_iff]

lemma get_applyTo (g : Given) (c : AgentConfig) (field : Field) :
    (g.applyTo c).get field = (field.given? g.values).getD (c.get field) := by
  have hoptional (s : Setting) (old : Option String) :
      (g.value? s <|> old) = ((g.values s).head?.map some).getD old := by
    unfold value?
    cases (g.values s).head? <;> rfl
  have hrepeated (old : List String) :
      (if g.has .collectors then (g.values .collectors).flatMap splitNames else old) =
        (Field.ofTexts? .collectors (g.values .collectors)).getD old := by
    rw [has_eq]
    cases g.values .collectors <;> rfl
  cases field with
  | collectors => exact hrepeated _
  | namePrefix => exact hoptional _ _
  | source => exact hoptional _ _
  | httpUser => exact hoptional _ _
  | httpToken => exact hoptional _ _
  | _ => rfl

/-- Every value is one that its setting can have. -/
def IsAccepted (g : Given) : Prop := ∀ p ∈ g, p.1.accepts p.2

lemma add_eq_some (h : g.add s value = some g') : s.accepts value ∧ g' = g ++ [(s, value)] := by
  unfold add at h
  split at h
  next hadd =>
    rw [Bool.and_eq_true] at hadd
    exact ⟨hadd.1, (Option.some.inj h).symm⟩
  next => cases h

lemma values_add (h : g.add s value = some g') (s' : Setting) :
    g'.values s' = g.values s' ++ if s = s' then [value] else [] := by
  obtain ⟨-, rfl⟩ := add_eq_some h
  unfold values
  by_cases hs : s = s' <;> simp [hs]

lemma IsAccepted.add (hg : g.IsAccepted) (h : g.add s value = some g') : g'.IsAccepted := by
  obtain ⟨hvalue, rfl⟩ := add_eq_some h
  intro p hp
  rcases List.mem_append.mp hp with hp | hp
  · exact hg p hp
  · cases List.mem_singleton.mp hp
    exact hvalue

lemma IsAccepted.put (hg : g.IsAccepted) {value : List Char} {read : Given → Except Refusal Given}
    (h : (g.put s value >>= read) = .ok g') : ∃ g₁ : Given, g₁.IsAccepted ∧ read g₁ = .ok g' := by
  unfold Given.put at h
  cases hg₁ : g.add s (String.ofList value) with
  | none =>
    rw [hg₁] at h
    cases h
  | some g₁ =>
    rw [hg₁] at h
    exact ⟨g₁, hg.add hg₁, h⟩

lemma IsAccepted.readArguments (hg : g.IsAccepted) {args : List String}
    (h : readArguments g args = .ok g') : g'.IsAccepted := by
  fun_induction CommandLine.readArguments g args
  case case1 =>
    cases h
    exact hg
  case case2 =>
    cases h
    exact hg
  case case5 ih =>
    obtain ⟨g₁, hg₁, hrest⟩ := hg.put h
    exact ih g₁ hg₁ hrest
  case case7 ih =>
    obtain ⟨g₁, hg₁, hrest⟩ := hg.put h
    exact ih g₁ hg₁ hrest
  all_goals cases h

lemma addVariable_eq_some (hg : g.IsAccepted)
    (h : (env s.variableName).elim (some g) (g.add s) = some g') :
    g'.IsAccepted ∧
      ∀ s', g'.values s' = g.values s' ++ if s = s' then fromVariables env s' else [] := by
  cases hv : env s.variableName with
  | none =>
    rw [hv] at h
    cases h
    refine ⟨hg, fun s' => ?_⟩
    split
    next hs => simp [← hs, fromVariables, hv]
    next => simp
  | some v =>
    rw [hv] at h
    refine ⟨hg.add h, fun s' => ?_⟩
    rw [values_add h]
    split
    next hs => simp [← hs, fromVariables, hv]
    next => rfl

lemma addVariables_eq_some {l : List Setting} (hl : l.Nodup) (hg : g.IsAccepted)
    (h : l.foldlM (fun g s => (env s.variableName).elim (some g) (g.add s)) g = some g') :
    g'.IsAccepted ∧
      ∀ s, g'.values s = g.values s ++ if s ∈ l then fromVariables env s else [] := by
  induction l generalizing g with
  | nil =>
    cases h
    exact ⟨hg, fun s => by simp⟩
  | cons s l ih =>
    obtain ⟨hs, hl⟩ := List.nodup_cons.mp hl
    rw [List.foldlM_cons] at h
    obtain ⟨g₁, hadd, hrest⟩ := Option.bind_eq_some_iff.mp h
    obtain ⟨hg₁, hvalues₁⟩ := addVariable_eq_some hg hadd
    obtain ⟨hg', hvalues⟩ := ih hl hg₁ hrest
    refine ⟨hg', fun s' => ?_⟩
    rw [hvalues, hvalues₁]
    by_cases hss' : s = s'
    · subst hss'
      simp [hs]
    · simp [hss', Ne.symm hss']

/-- A setting has the texts that the arguments give it, or else the text of its variable. -/
structure ComesFrom (env : Environment) (flags g : Given) : Prop where
  acceptedFlags : flags.IsAccepted
  accepted : g.IsAccepted
  values_eq : ∀ s, g.values s = if flags.has s then flags.values s else fromVariables env s

lemma settings_eq_ok {args : List String} (h : settings env args = .ok g) :
    ∃ flags : Given, readArguments [] args = .ok flags ∧ ComesFrom env flags g := by
  unfold settings at h
  cases hflags : CommandLine.readArguments [] args with
  | error r =>
    rw [hflags] at h
    cases h
  | ok flags =>
    rw [hflags] at h
    have haccepted : flags.IsAccepted :=
      IsAccepted.readArguments (fun _ hp => absurd hp List.not_mem_nil) hflags
    change (addVariables env flags).elim (Except.error Refusal.misused) Except.ok = _ at h
    cases hg : addVariables env flags with
    | none =>
      rw [hg] at h
      cases h
    | some g₁ =>
      rw [hg] at h
      cases h
      -- every setting is met once, so a variable is the only text of its setting
      have hnodup : (Setting.all.filter fun s => !flags.has s).Nodup := by
        refine List.Nodup.filter _ ?_
        decide
      obtain ⟨hg', hvalues⟩ := addVariables_eq_some hnodup haccepted hg
      refine ⟨flags, rfl, haccepted, hg', fun s => ?_⟩
      have hall : s ∈ Setting.all := by cases s <;> decide
      rw [hvalues]
      cases hhas : flags.has s with
      | false => simp [values_eq_nil.mpr hhas, hall, hhas]
      | true => simp [hhas]

end Given

/-! ### Layers -/

section Layers

variable {env : Environment} {site : Site} {args : List String} {g flags : Given} {s : Setting}
  {field : Field} {path : Option String} {file : String → FileState} {b : AgentConfig}

lemma given?_of_setting (hs : field.setting? = some s) (texts : Setting → List String) :
    field.given? texts = field.ofTexts? (texts s) := by
  rw [Field.given?, hs, Option.bind_some]

lemma isSome_given? (hg : g.IsAccepted) (hs : field.setting? = some s) (hhas : g.has s = true) :
    (field.given? g.values).isSome := by
  rw [given?_of_setting hs]
  cases hvalues : g.values s with
  | nil =>
    rw [values_eq_nil, hhas] at hvalues
    cases hvalues
  | cons t ts =>
    have ht : t ∈ g.values s := hvalues ▸ List.mem_cons_self
    obtain ⟨⟨s', t'⟩, hp, rfl⟩ := List.mem_map.mp ht
    obtain ⟨hmem, hs'⟩ := List.mem_filter.mp hp
    cases of_decide_eq_true hs'
    exact Field.isSome_ofTexts? hs (hg _ hmem) ts

/-- Arguments go before variables in each field for itself. -/
lemma given?_eq_or (h : ComesFrom env flags g) (field : Field) : field.given? g.values =
      (field.given? flags.values <|> field.given? (fromVariables env)) := by
  cases hs : field.setting? with
  | none => simp [Field.given?, hs]
  | some s =>
    rw [given?_of_setting hs, given?_of_setting hs, given?_of_setting hs, h.values_eq]
    cases hhas : flags.has s with
    | true =>
      have hsome := isSome_given? h.acceptedFlags hs hhas
      rw [given?_of_setting hs] at hsome
      obtain ⟨x, hx⟩ := Option.isSome_iff_exists.mp hsome
      rw [if_pos rfl, hx]
      rfl
    | false =>
      rw [values_eq_nil.mpr hhas, field.ofTexts?_nil]
      rfl

/-- The configuration of the file at a path that is named, or of the file that may be missing. -/
def fileConfig (env : Environment) (path : Option String) (file : String → FileState) :
    Except ConfigError AgentConfig :=
  path.elim (readOrDefault env defaultPath (file defaultPath)) fun p => read env p (file p)

lemma mergedConfig_eq (site : Site) (g : Given) :
    mergedConfig site g = (fileConfig site.env (g.value? .config) site.file).map g.applyTo := by
  unfold mergedConfig
  cases g.value? .config <;> rfl

lemma fileConfig_of_missing (h : file (path.getD defaultPath) = .missing) :
    fileConfig env path file = path.elim (.ok .default) fun p => .error (.notFound p) := by
  cases path with
  | none =>
    change readOrDefault env defaultPath (file defaultPath) = _
    rw [show file defaultPath = .missing from h]
    rfl
  | some p =>
    change read env p (file p) = _
    rw [show file p = .missing from h]
    rfl

lemma fileConfig_of_ne_missing (h : file (path.getD defaultPath) ≠ .missing) :
    fileConfig env path file =
      read env (path.getD defaultPath) (file (path.getD defaultPath)) := by
  cases path with
  | some p => rfl
  | none =>
    change readOrDefault env defaultPath (file defaultPath) = _
    unfold readOrDefault
    split
    next hmissing => exact absurd hmissing h
    next => rfl

lemma get_of_fileConfig (h : fileConfig env path file = .ok b) (field : Field) :
    b.get field = (field.inFile? env (file (path.getD defaultPath))).getD
        (AgentConfig.default.get field) ∧
      (field.isNamedIn env (file (path.getD defaultPath)) →
        (field.inFile? env (file (path.getD defaultPath))).isSome) := by
  by_cases hmissing : file (path.getD defaultPath) = .missing
  · rw [fileConfig_of_missing hmissing] at h
    rw [hmissing]
    cases path with
    | none =>
      cases h
      exact ⟨rfl, nofun⟩
    | some p => cases h
  · rw [fileConfig_of_ne_missing hmissing] at h
    exact get_of_read h field

lemma build_ne_config (site : Site) (c : AgentConfig) (e : ConfigError) :
    build site c ≠ .failed (.config e) := by
  unfold build
  split
  · nofun
  · split
    · nofun
    · split <;> nofun

lemma launch_ne_config (site : Site) (c : AgentConfig) :
    (∀ e, launch site c ≠ .failed (.config e)) ↔ c.validate = .ok c := by
  cases hfault : c.fault? with
  | none =>
    have hvalid := AgentConfig.validate_eq_ok.mpr hfault
    rw [launch_of_isValid (AgentConfig.fault?_eq_none.mp hfault)]
    exact iff_of_true (build_ne_config site c) hvalid
  | some e =>
    have herror := AgentConfig.validate_eq_error.mpr hfault
    rw [launch_of_fault hfault, herror]
    exact iff_of_false (fun h => h (.invalid e) rfl) nofun

lemma start_of_settings (h : settings site.env args = .ok g) : start site args =
    match fileConfig site.env (g.value? .config) site.file with
    | .error e => .failed (.config e)
    | .ok b => launch site (g.applyTo b) := by
  unfold start
  simp only [h, mergedConfig_eq]
  cases fileConfig site.env (g.value? .config) site.file with
  | error e => rfl
  | ok b =>
    have hchecked : checked ((Except.ok b).map g.applyTo) =
        (g.applyTo b).validate.mapError .invalid := rfl
    simp only [hchecked, launch]
    cases (g.applyTo b).validate <;> rfl

/-- The configuration that the layers come to, each field by itself. -/
def layered (env : Environment) (flags : Given) (file : FileState) : AgentConfig :=
  .ofFields fun field =>
    (field.given? flags.values <|> field.given? (fromVariables env) <|>
      field.inFile? env file).getD (AgentConfig.default.get field)

lemma applyTo_eq_layered (h : ComesFrom env flags g)
    (hb : fileConfig env path file = .ok b) :
    g.applyTo b = layered env flags (file (path.getD defaultPath)) := by
  rw [← (g.applyTo b).ofFields_get]
  refine congrArg AgentConfig.ofFields (funext fun field => ?_)
  rw [get_applyTo, given?_eq_or h, (get_of_fileConfig hb field).1]
  cases field.given? flags.values with
  | some x => rfl
  | none => cases field.given? (fromVariables env) <;> rfl

lemma value?_eq_or (h : ComesFrom env flags g) (s : Setting) :
    g.value? s = (flags.value? s <|> env s.variableName) := by
  unfold value?
  rw [h.values_eq]
  cases hhas : flags.has s with
  | false =>
    rw [values_eq_nil.mpr hhas]
    cases hv : env s.variableName <;> simp [fromVariables, hv]
  | true =>
    rw [if_pos rfl]
    cases hflags : flags.values s with
    | nil =>
      rw [values_eq_nil, hhas] at hflags
      cases hflags
    | cons t ts => rfl

lemma isSome_given?_fromVariables (h : ComesFrom env flags g)
    (hs : field.setting? = some s) (hhas : flags.has s = false)
    (hv : (env s.variableName).isSome) : (field.given? (fromVariables env)).isSome := by
  have hvalues : g.values s = fromVariables env s := by
    rw [h.values_eq, hhas]
    rfl
  have hhas : g.has s = true := by
    rw [has_eq, hvalues]
    obtain ⟨v, hv⟩ := Option.isSome_iff_exists.mp hv
    rw [fromVariables, hv]
    rfl
  have hsome := isSome_given? h.accepted hs hhas
  rwa [given?_of_setting hs, hvalues, ← given?_of_setting hs] at hsome

/--
**Layers of a configuration.** In every field, what the arguments give goes before what the
variables give, this before what the file says, and this before the default; only some fields can be
given outside the file, and what is given or named has a value. A missing file stands for the
defaults if no path is given, and is not found otherwise. The agent gets past its configuration
exactly if what the layers come to is valid.
-/
theorem start_with_layers (h : settings site.env args = .ok g) :
    ∃ flags, readArguments [] args = .ok flags ∧
      let path := flags.value? .config <|> site.env Setting.config.variableName
      let file := site.file (path.getD defaultPath)
      let read := fileConfig site.env path site.file
      let c := layered site.env flags file
      (∀ (field : Field) (s : Setting), field.setting? = some s →
        (flags.has s = true → (field.given? flags.values).isSome) ∧
        (flags.has s = false → (site.env s.variableName).isSome →
          (field.given? (fromVariables site.env)).isSome)) ∧
      (file = .missing → (read = .ok .default ↔ path = none) ∧
        ∀ p, path = some p → read = .error (.notFound p)) ∧
      (∀ e, read = .error e → start site args = .failed (.config e)) ∧
      ∀ b, read = .ok b →
        (∀ field : Field, field.isNamedIn site.env file → (field.inFile? site.env file).isSome) ∧
        start site args = launch site c ∧
        ((∀ e, start site args ≠ .failed (.config e)) ↔ c.validate = .ok c) := by
  obtain ⟨flags, hflags, hfrom⟩ := settings_eq_ok h
  have hstart := start_of_settings h
  rw [value?_eq_or hfrom] at hstart
  refine ⟨flags, hflags, fun field s hs => ?given, fun hmissing => ?missing, fun e he => ?unread,
    fun b hb => ?read⟩
  case given =>
    exact ⟨isSome_given? hfrom.acceptedFlags hs, isSome_given?_fromVariables hfrom hs⟩
  case missing =>
    rw [fileConfig_of_missing hmissing]
    cases flags.value? .config <|> site.env Setting.config.variableName with
    | none => exact ⟨iff_of_true rfl rfl, nofun⟩
    | some p => exact ⟨iff_of_false nofun nofun, fun q hq => by cases hq; rfl⟩
  case unread => rw [hstart, he]
  case read =>
    have hlaunch : start site args = launch site (g.applyTo b) := by rw [hstart, hb]
    rw [hlaunch, applyTo_eq_layered hfrom hb]
    exact ⟨fun field => (get_of_fileConfig hb field).2, rfl, launch_ne_config site _⟩

/-- A site with some file and one variable. -/
def overriddenSite (file : FileState) : Site :=
  ⟨fun name => if name = "VIGIL_SOURCE" then some "web" else none, fun _ => file,
    .ofTree (.ofDirectories []), [], 0⟩

/-- A file that is not valid by itself. -/
def zeroIntervalFile : FileState := .content "interval: 0s\nprefix: edge\n".toUTF8

/-- An argument repairs the file, a variable adds to it, and an argument breaks the defaults. -/
theorem start_with_layers_overridden :
    (layered (overriddenSite zeroIntervalFile).env [] zeroIntervalFile).validate =
        .error .zeroInterval ∧
      (∃ c : AgentConfig, start (overriddenSite zeroIntervalFile) ["--interval=5s"] =
          launch (overriddenSite zeroIntervalFile) c ∧
        c.validate = .ok c ∧ c.interval = .ofSeconds 5 ∧ c.namePrefix = some "edge" ∧
        c.source = some "web") ∧
      ¬ (∀ e, start (overriddenSite .missing) ["--interval=0s"] ≠ .failed (.config e)) ∧
      start (overriddenSite .missing) ["-c", "a.yaml"] =
        .failed (.config (.notFound "a.yaml")) := by
  refine ⟨by decide +kernel, ?repaired, ?broken, ?missing⟩
  case repaired =>
    have hgiven : settings (overriddenSite zeroIntervalFile).env ["--interval=5s"] =
        .ok [(.interval, "5s"), (.source, "web")] := by decide +kernel
    obtain ⟨flags, hflags, -, -, -, hread⟩ := start_with_layers hgiven
    have hinterval : flags = [(.interval, "5s")] :=
      (Except.ok.inj (hflags.symm.trans (by decide +kernel)))
    subst hinterval
    have hsome : (fileConfig (overriddenSite zeroIntervalFile).env none
        (overriddenSite zeroIntervalFile).file).toOption.isSome = true := by decide +kernel
    cases hb : fileConfig (overriddenSite zeroIntervalFile).env none
        (overriddenSite zeroIntervalFile).file with
    | error e =>
      rw [hb] at hsome
      cases hsome
    | ok b =>
      obtain ⟨-, hstart, -⟩ := hread b hb
      exact ⟨_, hstart, by decide +kernel, by decide +kernel, by decide +kernel, by decide +kernel⟩
  case broken =>
    have hgiven : settings (overriddenSite .missing).env ["--interval=0s"] =
        .ok [(.interval, "0s"), (.source, "web")] := by decide +kernel
    obtain ⟨flags, hflags, -, -, -, hread⟩ := start_with_layers hgiven
    have hinterval : flags = [(.interval, "0s")] :=
      (Except.ok.inj (hflags.symm.trans (by decide +kernel)))
    subst hinterval
    obtain ⟨-, -, hpast⟩ := hread .default rfl
    exact fun h => absurd (hpast.mp h) (by decide +kernel)
  case missing =>
    have hgiven : settings (overriddenSite .missing).env ["-c", "a.yaml"] =
        .ok [(.config, "a.yaml"), (.source, "web")] := by decide +kernel
    obtain ⟨flags, hflags, -, hmissing, herror, -⟩ := start_with_layers hgiven
    have hconfig : flags = [(.config, "a.yaml")] :=
      (Except.ok.inj (hflags.symm.trans (by decide +kernel)))
    subst hconfig
    exact herror _ ((hmissing rfl).2 "a.yaml" rfl)

end Layers

end CommandLine

end MetricAgent
