import Mathlib.Tactic.Common
import MetricAgent.Config.Validation

/-!
What the checks of a configuration ask for. A configuration is valid if it has no fault, and every
fault belongs to a field that is looked at.
-/

namespace MetricAgent.Config

open Listen

/-- A configuration that can be run. Only the selected parts count. -/
structure AgentConfig.IsValid (c : AgentConfig) : Prop where
  interval : 0 < c.interval.nanos
  capacity : c.channelCapacity ≠ 0
  address : collectorName ∈ c.collectors → ∃ a, Address.parse c.listen.address = .ok a
  batchSize : c.output = .http → c.http.batchSize ≠ 0
  batchTimeout : c.output = .http → 0 < c.http.batchTimeout.nanos
  url : c.output = .http → ∃ u, Url.parse c.http.url.toList = .ok u

namespace AgentConfig

variable {c : AgentConfig} {f : Fault}

lemma isZero_iff {d : Time.Span} : d.isZero = true ↔ d.nanos = 0 := decide_eq_true_iff

lemma validate_eq_ok : c.validate = .ok c ↔ c.fault? = none := by
  unfold validate
  cases c.fault? with
  | none => exact iff_of_true rfl rfl
  | some f => exact iff_of_false nofun nofun

lemma validate_eq_error : c.validate = .error f ↔ c.fault? = some f := by
  unfold validate
  cases c.fault? with
  | none => exact iff_of_false nofun nofun
  | some g => exact ⟨fun h => congrArg some (Except.error.inj h), fun h => by cases h; rfl⟩

lemma listenFault_eq_none : c.listenFault = none ↔
    (collectorName ∈ c.collectors → ∃ a, Address.parse c.listen.address = .ok a) := by
  unfold listenFault
  by_cases hmem : collectorName ∈ c.collectors
  · rw [if_pos (List.contains_iff_mem.mpr hmem)]
    cases Address.parse c.listen.address with
    | ok a => exact iff_of_true rfl fun _ => ⟨a, rfl⟩
    | error e => exact iff_of_false nofun fun h => nomatch (h hmem).choose_spec
  · rw [if_neg (mt List.contains_iff_mem.mp hmem)]
    exact iff_of_true rfl fun h => absurd h hmem

lemma httpFault_eq_none : c.httpFault = none ↔ (c.output = .http →
    c.http.batchSize ≠ 0 ∧ 0 < c.http.batchTimeout.nanos ∧
      ∃ u, Url.parse c.http.url.toList = .ok u) := by
  unfold httpFault
  by_cases hhttp : c.output = .http
  · rw [if_pos hhttp]
    by_cases hsize : c.http.batchSize = 0
    · rw [if_pos hsize]
      exact iff_of_false nofun fun h => (h hhttp).1 hsize
    rw [if_neg hsize]
    by_cases htimeout : c.http.batchTimeout.nanos = 0
    · rw [if_pos (isZero_iff.mpr htimeout)]
      exact iff_of_false nofun fun h => absurd htimeout (Nat.ne_of_gt (h hhttp).2.1)
    rw [if_neg (mt isZero_iff.mp htimeout)]
    cases hurl : Url.parse c.http.url.toList with
    | ok u => exact iff_of_true rfl fun _ => ⟨hsize, Nat.pos_of_ne_zero htimeout, u, rfl⟩
    | error e => exact iff_of_false nofun fun h => nomatch (h hhttp).2.2.choose_spec
  · rw [if_neg hhttp]
    exact iff_of_true rfl fun h => absurd h hhttp

lemma fault?_eq_none : c.fault? = none ↔ c.IsValid := by
  unfold fault?
  by_cases hinterval : c.interval.nanos = 0
  · rw [if_pos (isZero_iff.mpr hinterval)]
    exact iff_of_false nofun fun h => absurd hinterval (Nat.ne_of_gt h.interval)
  rw [if_neg (mt isZero_iff.mp hinterval)]
  by_cases hcapacity : c.channelCapacity = 0
  · rw [if_pos hcapacity]
    exact iff_of_false nofun fun h => h.capacity hcapacity
  rw [if_neg hcapacity, Option.orElse_eq_orElse, Option.orElse_eq_or, Option.or_eq_none_iff,
    listenFault_eq_none, httpFault_eq_none]
  constructor
  · rintro ⟨haddress, hhttp⟩
    exact ⟨Nat.pos_of_ne_zero hinterval, hcapacity, haddress, fun h => (hhttp h).1,
      fun h => (hhttp h).2.1, fun h => (hhttp h).2.2⟩
  · intro h
    exact ⟨h.address, fun hh => ⟨h.batchSize hh, h.batchTimeout hh, h.url hh⟩⟩

lemma validate_iff_isValid : c.validate = .ok c ↔ c.IsValid := validate_eq_ok.trans fault?_eq_none

lemma exists_fault (h : ¬c.IsValid) : ∃ f, c.validate = .error f := by
  cases hf : c.fault? with
  | none => exact absurd (fault?_eq_none.mp hf) h
  | some f => exact ⟨f, validate_eq_error.mpr hf⟩

end AgentConfig

end MetricAgent.Config
