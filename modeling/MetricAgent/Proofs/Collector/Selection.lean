import Mathlib.Data.List.Dedup
import MetricAgent.Collector.Selection
import MetricAgent.Proofs.Collector.Registry

/-!
Which collectors a list of names builds, and in which order. Only the last occurrence of a name
counts, the factories are invoked one after the other until an entry ends the selection, and what is
registered are the known names of the list.
-/

namespace MetricAgent.Collector

variable {σ : Type} {factory? : String → Option (Factory σ)} {isStrict : Bool} {name : String}
  {names u : List String} {r : Registry} {s s' : σ}

/-! ### Invocations -/

/-- Factories that note the names under which they are invoked. -/
def noted (factory? : String → Option (Factory σ)) (name : String) :
    Option (Factory (List String × σ)) :=
  (factory? name).map fun build p => ((build p.2).1, p.1 ++ [name], (build p.2).2)

/-- The names that there is a factory for. -/
def known (factory? : String → Option (Factory σ)) (names : List String) : List String :=
  names.filter fun n => (factory? n).isSome

/-- The factories of some names are invoked one after the other, and none fails. -/
inductive Builds (factory? : String → Option (Factory σ)) :
    σ → List String → List Collector → σ → Prop where
  | nil (s : σ) : Builds factory? s [] [] s
  | cons {s s₁ s₂ : σ} {name : String} {build : Factory σ} {c : Collector} {names : List String}
      {cs : List Collector} (found : factory? name = some build) (built : build s = (.ok c, s₁))
      (others : Builds factory? s₁ names cs s₂) : Builds factory? s (name :: names) (c :: cs) s₂

/--
How a selection ends: with all known names built, or at the first entry that is refused because it
is unknown or whose factory fails. Behind the result stand the names of the invoked factories.
-/
inductive Ends (factory? : String → Option (Factory σ)) (isStrict : Bool) (s : σ)
    (u : List String) : Except CollectorError (List Collector) → List String → σ → Prop where
  | built {cs : List Collector} {s' : σ} (builds : Builds factory? s (known factory? u) cs s')
      (strict : isStrict = true → known factory? u = u) :
      Ends factory? isStrict s u (.ok cs) (known factory? u) s'
  | unknown (before after : List String) (name : String) (cs : List Collector) {s' : σ}
      (split : u = before ++ name :: after)
      (builds : Builds factory? s (known factory? before) cs s')
      (strict : isStrict = true) (all : known factory? before = before)
      (unknown : factory? name = none) :
      Ends factory? isStrict s u (.error (.unknown name)) before s'
  | failed (before after : List String) (name : String) (cs : List Collector) {s₁ s' : σ}
      {build : Factory σ} {e : CollectorError} (split : u = before ++ name :: after)
      (builds : Builds factory? s (known factory? before) cs s₁)
      (strict : isStrict = true → known factory? before = before)
      (found : factory? name = some build) (fails : build s₁ = (.error e, s')) :
      Ends factory? isStrict s u (.error e) (known factory? before ++ [name]) s'

lemma known_cons_of_some {build : Factory σ} (h : factory? name = some build) :
    known factory? (name :: names) = name :: known factory? names := by
  simp [known, h]

lemma known_cons_of_none (h : factory? name = none) :
    known factory? (name :: names) = known factory? names := by
  simp [known, h]

lemma known_noted (names : List String) : known (noted factory?) names = known factory? names :=
  List.filter_congr fun _ _ => Option.isSome_map

lemma known_append (names names' : List String) :
    known factory? (names ++ names') = known factory? names ++ known factory? names' :=
  List.filter_append names names'

namespace Ends

variable {result : Except CollectorError (List Collector)} {invoked : List String}

lemma pass (h : Ends factory? false s u result invoked s') (hf : factory? name = none) :
    Ends factory? false s (name :: u) result invoked s' := by
  cases h with
  | built builds strict =>
    rw [← known_cons_of_none hf] at builds ⊢
    exact .built builds nofun
  | unknown _ after name' cs split builds strict => cases strict
  | failed before after name' cs split builds strict found fails =>
    rw [← known_cons_of_none hf] at builds ⊢
    exact .failed (name :: before) after name' cs (by rw [split]; rfl) builds nofun found fails

lemma build {build : Factory σ} {c : Collector} {s₁ : σ}
    (h : Ends factory? isStrict s₁ u result invoked s') (hf : factory? name = some build)
    (hb : build s = (.ok c, s₁)) :
    Ends factory? isStrict s (name :: u) (result.map (c :: ·)) (name :: invoked) s' := by
  have hknown (names : List String) :
      known factory? (name :: names) = name :: known factory? names :=
    known_cons_of_some hf
  cases h with
  | built builds strict =>
    rw [← hknown]
    refine .built ?_ fun hs => by rw [hknown, strict hs]
    rw [hknown]
    exact .cons hf hb builds
  | unknown _ after name' cs split builds strict all unknown =>
    refine .unknown (name :: invoked) after name' (c :: cs) (by rw [split]; rfl) ?_ strict
      (by rw [hknown, all]) unknown
    rw [hknown]
    exact .cons hf hb builds
  | failed before after name' cs split builds strict found fails =>
    rw [← List.cons_append, ← hknown]
    refine .failed (name :: before) after name' (c :: cs) (by rw [split]; rfl) ?_
      (fun hs => by rw [hknown, strict hs]) found fails
    rw [hknown]
    exact .cons hf hb builds

lemma invoked_prefix (h : Ends factory? isStrict s u result invoked s') :
    invoked <+: known factory? u := by
  cases h with
  | built builds strict => exact List.prefix_rfl
  | unknown _ after name cs split builds strict all =>
    refine ⟨known factory? (name :: after), ?_⟩
    rw [split, known_append, all]
  | failed before after name cs split builds strict found =>
    refine ⟨known factory? after, ?_⟩
    rw [split, known_append, known_cons_of_some found, List.append_assoc]
    rfl

end Ends

/-! ### Names that occur more than once -/

lemma lastOccurrences_eq (names : List String) : lastOccurrences names = names.dedup := by
  induction names with
  | nil => rfl
  | cons name names ih =>
    unfold lastOccurrences
    by_cases h : name ∈ names
    · rw [if_pos (List.contains_iff_mem.mpr h), List.dedup_cons_of_mem h, ih]
    · rw [if_neg (mt List.contains_iff_mem.mp h), List.dedup_cons_of_notMem h, ih]

namespace Registry

lemma fromNames_of_mem (h : name ∈ names) (r : Registry) (s : σ) :
    fromNames factory? isStrict (name :: names) r s = fromNames factory? isStrict names r s := by
  rw [fromNames, if_pos (List.contains_iff_mem.mpr h)]

lemma fromNames_of_some {build : Factory σ} (h : name ∉ names) (hf : factory? name = some build)
    (r : Registry) (s : σ) :
    fromNames factory? isStrict (name :: names) r s =
      match build s with
      | (.error e, s) => (.error e, s)
      | (.ok c, s) => fromNames factory? isStrict names (r.register c) s := by
  rw [fromNames, if_neg (mt List.contains_iff_mem.mp h)]
  rcases hb : build s with ⟨e | c, s'⟩
  · simp only [hf, hb]
  · simp only [hf, hb]

lemma fromNames_of_none (h : name ∉ names) (hf : factory? name = none) (r : Registry) (s : σ) :
    fromNames factory? isStrict (name :: names) r s =
      if isStrict then (.error (.unknown name), s) else fromNames factory? isStrict names r s := by
  rw [fromNames, if_neg (mt List.contains_iff_mem.mp h), hf]

lemma fromNames_congr {names' : List String} (hm : name ∈ names ↔ name ∈ names')
    (h : ∀ (r : Registry) (s : σ), fromNames factory? isStrict names r s =
      fromNames factory? isStrict names' r s) (r : Registry) (s : σ) :
    fromNames factory? isStrict (name :: names) r s =
      fromNames factory? isStrict (name :: names') r s := by
  by_cases hmem : name ∈ names
  · rw [fromNames_of_mem hmem, fromNames_of_mem (hm.mp hmem), h]
  · cases hf : factory? name with
    | none =>
      rw [fromNames_of_none hmem hf, fromNames_of_none (mt hm.mpr hmem) hf, h]
    | some build =>
      rw [fromNames_of_some hmem hf, fromNames_of_some (mt hm.mpr hmem) hf]
      simp only [h]

lemma fromNames_dedup (names : List String) (r : Registry) (s : σ) :
    fromNames factory? isStrict names r s = fromNames factory? isStrict names.dedup r s := by
  induction names generalizing r s with
  | nil => rfl
  | cons name names ih =>
    by_cases h : name ∈ names
    · rw [fromNames_of_mem h, List.dedup_cons_of_mem h, ih]
    · rw [List.dedup_cons_of_notMem h]
      exact fromNames_congr List.mem_dedup.symm ih r s

lemma fromNames_known (names : List String) (r : Registry) (s : σ) :
    fromNames factory? false names r s = fromNames factory? false (known factory? names) r s := by
  induction names generalizing r s with
  | nil => rfl
  | cons name names ih =>
    cases hf : factory? name with
    | none =>
      rw [known_cons_of_none hf, ← ih]
      by_cases h : name ∈ names
      · rw [fromNames_of_mem h]
      · rw [fromNames_of_none h hf]
        rfl
    | some build =>
      rw [known_cons_of_some hf]
      refine fromNames_congr ?_ ih r s
      simp [known, hf]

lemma fromNames_map {f : σ → σ}
    (hf : ∀ name ∈ names, ∀ build, factory? name = some build →
      ∀ s, build (f s) = ((build s).1, f (build s).2)) (r : Registry) (s : σ) :
    fromNames factory? isStrict names r (f s) =
      ((fromNames factory? isStrict names r s).1, f (fromNames factory? isStrict names r s).2) := by
  induction names generalizing r s with
  | nil => rfl
  | cons name names ih =>
    have ih := ih fun n hn => hf n (List.mem_cons_of_mem name hn)
    by_cases h : name ∈ names
    · simp only [fromNames_of_mem h, ih]
    · cases hbuild : factory? name with
      | none =>
        simp only [fromNames_of_none h hbuild]
        cases isStrict with
        | true => rfl
        | false => exact ih r s
      | some build =>
        simp only [fromNames_of_some h hbuild, hf name List.mem_cons_self build hbuild s]
        rcases build s with ⟨e | c, s₁⟩
        · rfl
        · exact ih (r.register c) s₁

/-- An error that an entry is to blame for: an unknown name, or a factory failing in some state. -/
def IsBlamed (factory? : String → Option (Factory σ)) (P : σ → Prop) (e : CollectorError)
    (name : String) : Prop :=
  e = .unknown name ∨ ∃ build s, factory? name = some build ∧ P s ∧ (build s).1 = .error e

/-- A selection fails through one of its names, in a state with all that the factories keep. -/
lemma fromNames_eq_error {P : σ → Prop} {e : CollectorError}
    (hkeep : ∀ name build s, factory? name = some build → P s → P (build s).2) (hs : P s)
    (he : (fromNames factory? isStrict names r s).1 = .error e) :
    ∃ name ∈ names, IsBlamed factory? P e name := by
  induction names generalizing r s with
  | nil => cases he
  | cons name names ih =>
    have later {r : Registry} {s : σ} (hs : P s)
        (he : (fromNames factory? isStrict names r s).1 = .error e) :
        ∃ n ∈ name :: names, IsBlamed factory? P e n := by
      obtain ⟨n, hn, hblame⟩ := ih hs he
      exact ⟨n, List.mem_cons_of_mem name hn, hblame⟩
    by_cases h : name ∈ names
    · rw [fromNames_of_mem h] at he
      exact later hs he
    · cases hf : factory? name with
      | none =>
        rw [fromNames_of_none h hf] at he
        cases isStrict with
        | true => exact ⟨name, List.mem_cons_self, .inl (Except.error.inj he).symm⟩
        | false => exact later hs he
      | some build =>
        rw [fromNames_of_some h hf] at he
        have hs' := hkeep name build s hf hs
        rcases hb : build s with ⟨e' | c, s₁⟩
        · rw [hb] at he
          cases he
          exact ⟨name, List.mem_cons_self, .inr ⟨build, s, hf, hs, by rw [hb]⟩⟩
        · rw [hb] at he hs'
          exact later hs' he

/-! ### One entry after the other -/

/-- The registry after some collectors were registered. -/
def registerAll (r : Registry) (cs : List Collector) : Registry := cs.foldl register r

lemma fromNames_noted (names : List String) (r : Registry) (log : List String) (s : σ) :
    let ran := fromNames (noted factory?) isStrict names r (log, s)
    fromNames factory? isStrict names r s = (ran.1, ran.2.2) := by
  induction names generalizing r log s with
  | nil => rfl
  | cons name names ih =>
    by_cases h : name ∈ names
    · simp only [fromNames_of_mem h]
      exact ih r log s
    · cases hf : factory? name with
      | none =>
        have hn : noted factory? name = none := by rw [noted, hf]; rfl
        simp only [fromNames_of_none h hf, fromNames_of_none h hn]
        cases isStrict with
        | true => rfl
        | false => exact ih r log s
      | some build =>
        have hn : noted factory? name =
            some fun p => ((build p.2).1, p.1 ++ [name], (build p.2).2) := by rw [noted, hf]; rfl
        simp only [fromNames_of_some h hf, fromNames_of_some h hn]
        rcases build s with ⟨e | c, s₁⟩
        · rfl
        · exact ih (r.register c) (log ++ [name]) s₁

/-- Where no name occurs twice, entries are gone through in order up to the first that ends it. -/
lemma ends_fromNames (factory? : String → Option (Factory σ)) (isStrict : Bool) (hu : u.Nodup)
    (r : Registry) (log : List String) (s : σ) :
    ∃ result invoked s', Ends factory? isStrict s u result invoked s' ∧
      fromNames (noted factory?) isStrict u r (log, s) =
        (result.map r.registerAll, log ++ invoked, s') := by
  induction u generalizing r log s with
  | nil => exact ⟨.ok [], [], s, .built (.nil s) fun _ => rfl, by rw [List.append_nil]; rfl⟩
  | cons name u ih =>
    obtain ⟨hname, hu⟩ := List.nodup_cons.mp hu
    cases hf : factory? name with
    | none =>
      have hn : noted factory? name = none := by rw [noted, hf]; rfl
      rw [fromNames_of_none hname hn]
      cases hs : isStrict with
      | true =>
        refine ⟨.error (.unknown name), [], s, ?_, by simp [Except.map]⟩
        exact .unknown [] u name [] rfl (.nil s) rfl rfl hf
      | false =>
        subst hs
        obtain ⟨result, invoked, s', he, hrun⟩ := ih hu r log s
        exact ⟨result, invoked, s', he.pass hf, hrun⟩
    | some build =>
      have hn : noted factory? name =
          some fun p => ((build p.2).1, p.1 ++ [name], (build p.2).2) := by rw [noted, hf]; rfl
      rw [fromNames_of_some hname hn]
      rcases hb : build s with ⟨e | c, s₁⟩
      · refine ⟨.error e, [name], s₁, ?_, by simp [Except.map]⟩
        exact .failed [] u name [] rfl (.nil s) (fun _ => rfl) hf hb
      · obtain ⟨result, invoked, s', he, hrun⟩ := ih hu (r.register c) (log ++ [name]) s₁
        refine ⟨_, _, s', he.build hf hb, ?_⟩
        simp only [hrun, List.append_assoc, List.singleton_append]
        cases result <;> rfl

/-! ### Names of a registry -/

lemma pairwise_names_registerAll (cs : List Collector) (h : r.names.Pairwise (· < ·)) :
    (r.registerAll cs).names.Pairwise (· < ·) := by
  induction cs generalizing r with
  | nil => exact h
  | cons c cs ih => exact ih (pairwise_insert h)

lemma mem_names_registerAll {cs : List Collector} :
    name ∈ (r.registerAll cs).names ↔ name ∈ cs.map Collector.name ∨ name ∈ r.names := by
  induction cs generalizing r with
  | nil => simp [registerAll]
  | cons c cs ih =>
    have hc : name ∈ (r.register c).names ↔ name = c.name ∨ name ∈ r.names := mem_names_insert
    rw [List.map_cons, List.mem_cons, or_assoc, or_left_comm, ← hc]
    exact ih

end Registry

/-! ### The known collectors -/

lemma of_lookup_knownCollectors {build : Factory Workshop}
    (h : knownCollectors.lookup name = some build) :
    (name = Listen.collectorName ∧ build = buildListener) ∨
      (name ≠ Listen.collectorName ∧
        ∃ c : Collector, c.name = name ∧ build = fun w => (.ok c, w)) := by
  obtain ⟨l₁, l₂, hl, -⟩ := List.lookup_eq_some_iff.mp h
  have hmem : (name, build) ∈ knownCollectors := by
    rw [hl]
    exact List.mem_append_right l₁ List.mem_cons_self
  simp only [knownCollectors, List.mem_cons, Prod.mk.injEq, List.not_mem_nil, or_false] at hmem
  rcases hmem with ⟨rfl, rfl⟩ | ⟨rfl, rfl⟩ | ⟨rfl, rfl⟩
  · exact .inl ⟨rfl, rfl⟩
  · exact .inr ⟨by decide, loadCollector, rfl, rfl⟩
  · exact .inr ⟨by decide, selfCollector, rfl, rfl⟩

lemma name_of_knownCollectors {build : Factory Workshop} {w w' : Workshop} {c : Collector}
    (hf : knownCollectors.lookup name = some build) (hb : build w = (.ok c, w')) :
    c.name = name := by
  rcases of_lookup_knownCollectors hf with ⟨rfl, rfl⟩ | ⟨-, c', rfl, rfl⟩
  · unfold buildListener at hb
    split at hb
    · cases hb
    · split at hb
      · cases hb
      · cases hb
        rfl
  · cases hb
    rfl

lemma isSome_lookup {β : Type} (l : List (String × β)) (name : String) :
    (l.lookup name).isSome = (l.map Prod.fst).contains name := by
  induction l with
  | nil => rfl
  | cons p l ih =>
    rw [List.lookup_cons, List.map_cons, List.contains_cons]
    cases name == p.1 with
    | true => rfl
    | false => exact ih

lemma Builds.map_name {w w' : Workshop} {cs : List Collector}
    (h : Builds (fun name => knownCollectors.lookup name) w names cs w') :
    cs.map Collector.name = names := by
  induction h with
  | nil => rfl
  | cons found built _ ih => rw [List.map_cons, ih, name_of_knownCollectors found built]

/--
**What a list of names builds.** A list comes to the same as the list of the last occurrences in it.
Their factories are invoked one after the other, each once, up to the first entry that is refused or
fails, whose error is the result; if there is none, the known names of the list are registered, in
their order and each once. Unless they are refused, unknown names change nothing.
-/
theorem selects_last_occurrences (names : List String) (isStrict : Bool) (w : Workshop) :
    let factory? : String → Option (Factory Workshop) := fun name => knownCollectors.lookup name
    let run := fun isStrict names =>
      Registry.fromNames (noted factory?) isStrict names .empty ([], w)
    let u := lastOccurrences names
    u = names.dedup ∧
    select names isStrict w = ((run isStrict names).1, (run isStrict names).2.2) ∧
    run isStrict names = run isStrict u ∧
    (∃ result invoked w', Ends factory? isStrict w u result invoked w' ∧
      run isStrict names = (result.map (Registry.registerAll .empty), invoked, w') ∧
      invoked <+: u.filter (knownNames.contains ·) ∧ invoked.Nodup ∧
      ∀ cs, result = .ok cs →
        (Registry.registerAll .empty cs).names.Pairwise (· < ·) ∧
        ∀ name, name ∈ (Registry.registerAll .empty cs).names ↔ name ∈ names ∧ name ∈ knownNames) ∧
    (∀ names', names'.filter (knownNames.contains ·) = names.filter (knownNames.contains ·) →
      run false names' = run false names) := by
  intro factory? run u
  have hu : u = names.dedup := lastOccurrences_eq names
  have hknown (names : List String) :
      known factory? names = names.filter (knownNames.contains ·) :=
    List.filter_congr fun name _ => isSome_lookup knownCollectors name
  have hrun (isStrict : Bool) (names : List String) :
      run isStrict names = run isStrict names.dedup := Registry.fromNames_dedup names _ _
  refine ⟨hu, Registry.fromNames_noted names .empty [] w, by rw [hrun, hu], ?_,
    fun names' hnames => ?_⟩
  · obtain ⟨result, invoked, w', he, hr⟩ :=
      Registry.ends_fromNames factory? isStrict (hu ▸ names.nodup_dedup : u.Nodup) .empty [] w
    have hprefix := he.invoked_prefix
    rw [hknown] at hprefix
    have hnodup : (u.filter (knownNames.contains ·)).Nodup :=
      (hu ▸ names.nodup_dedup : u.Nodup).filter _
    refine ⟨result, invoked, w', he, ?_, hprefix, hnodup.sublist hprefix.sublist, ?_⟩
    · rw [hrun, ← hu]
      exact hr
    · rintro cs rfl
      refine ⟨Registry.pairwise_names_registerAll cs .nil, fun name => ?_⟩
      cases he with
      | built builds strict =>
        rw [Registry.mem_names_registerAll, builds.map_name, hknown, List.mem_filter, hu,
          List.mem_dedup, List.contains_iff_mem]
        simp [Registry.names, Registry.empty]
  · calc run false names'
        = run false (known (noted factory?) names') := Registry.fromNames_known names' _ _
      _ = run false (known (noted factory?) names) := by
          rw [known_noted, known_noted, hknown, hknown, hnames]
      _ = run false names := (Registry.fromNames_known names _ _).symm

/-- A name that occurs twice, and one that is not known. -/
def twiceAndUnknown : List String := ["listen", "cpu", "self", "listen", "load"]

/-- A workshop for a listener whose address names no transport. -/
def misaddressed : Workshop where
  config := { Config.AgentConfig.default with listen := ⟨"nowhere", false⟩ }
  sockets := .ofTree (.ofDirectories [])
  base := []
  identity := 0
  binding := none

/--
The listener is built at its last occurrence, and as it fails nothing is built behind it. A strict
selection ends at the unknown name, and one that is not does not see it.
-/
theorem selects_last_occurrences_misaddressed :
    let run := fun isStrict names =>
      Registry.fromNames (noted fun name => knownCollectors.lookup name) isStrict names .empty
        ([], misaddressed)
    lastOccurrences twiceAndUnknown = ["cpu", "self", "listen", "load"] ∧
      (run false twiceAndUnknown).2.1 = ["self", "listen"] ∧
      run true twiceAndUnknown = (.error (.unknown "cpu"), [], misaddressed) ∧
      run false ["listen", "self", "listen", "load"] = run false twiceAndUnknown := by
  intro run
  obtain ⟨-, -, -, -, hunknown⟩ := selects_last_occurrences twiceAndUnknown false misaddressed
  obtain ⟨-, -, hstrict, -, -⟩ := selects_last_occurrences twiceAndUnknown true misaddressed
  refine ⟨by decide, ?_, hstrict.trans rfl, hunknown _ (by decide)⟩
  decide +kernel

end MetricAgent.Collector
