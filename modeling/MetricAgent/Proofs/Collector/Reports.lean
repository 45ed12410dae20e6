import Mathlib.Data.List.Perm.Basic
import MetricAgent.Proofs.Collector.Moves

/-!
What the tasks of a tick have sent at any time. Each has sent the first part of its report: the
count of its collector, then the readings of the poll, and at last the duration. Reports may mix in
any way, but the duration of the whole tick comes behind all of them.
-/

namespace MetricAgent.Collector

open Time

variable {time : Timestamp} {around : Surroundings} {e : Entry} {name : String}

/-- All its polls come to an end, well or not. -/
def Settles (c : Collector) : Prop :=
  ∀ n time around q, (c.poll n time around q).ending ≠ .aborted

/-- All that is to be sent for a collector in a tick, by what its poll does. -/
def Entry.report (e : Entry) (time : Timestamp) (p : Poll) : Log :=
  (.count e.name, tickCount time e.name (e.ticks + 1)) ::
    (p.readings.map (.collector e.name, ·) ++
      [(.duration e.name, tickDuration time e.name p.lasts)])

/-- What was sent by a collector or about it. -/
def Log.about (log : Log) (name : String) : Log := log.filter (·.1.collector? = some name)

lemma about_append (log sent : Log) (name : String) :
    Log.about (log ++ sent) name = Log.about log name ++ Log.about sent name :=
  List.filter_append ..

lemma about_eq_self {sent : Log} (h : ∀ x ∈ sent, x.1.collector? = some name) :
    Log.about sent name = sent :=
  List.filter_eq_self.mpr fun x hx => by simpa using h x hx

lemma about_eq_nil {sent : Log} (h : ∀ x ∈ sent, x.1.collector? ≠ some name) :
    Log.about sent name = [] :=
  List.filter_eq_nil_iff.mpr fun x hx => by simpa using h x hx

lemma about_singleton_eq_nil {x : Sender × Measurement} (h : x.1.collector? ≠ some name) :
    Log.about [x] name = [] := by
  simp [Log.about, h]

/-! ### One task -/

/-- What a task that has begun is still to send. -/
def Stage.pending (time : Timestamp) (e : Entry) : Stage → Log
  | .sending p =>
    p.readings.map (.collector e.name, ·) ++ [(.duration e.name, tickDuration time e.name p.lasts)]
  | .timing lasts => [(.duration e.name, tickDuration time e.name lasts)]
  | .waiting | .ended => []

/-- What a task has sent when it has come to some stage. -/
inductive Stage.Reports (time : Timestamp) (around : Surroundings) (e : Entry) :
    Stage → Log → Prop where
  | waiting : Reports time around e .waiting
      [(.count e.name, tickCount time e.name (e.ticks + 1))]
  | begun (stage : Stage) (sent : Log) (q : Queue Measurement) (started : stage ≠ .waiting)
      (settles : ∀ p, stage = .sending p → p.ending ≠ .aborted)
      (all : sent ++ stage.pending time e = e.report time (e.poll time around q)) :
      Reports time around e stage sent

section Task

variable {t : Tick} {stage stage' : Stage} {sent log : Log}

lemma Stage.Moves.sender (hm : stage.Moves t e sent stage') :
    ∀ x ∈ sent, x.1.collector? = some e.name := by
  cases hm with
  | send | time =>
    intro x hx
    obtain rfl := List.mem_singleton.mp hx
    rfl
  | _ => nofun

/-- What a task sends is the next part of what it is still to send. -/
lemma Stage.Moves.pending (hm : stage.Moves t e sent stage') (started : stage ≠ .waiting)
    (settles : ∀ p, stage = .sending p → p.ending ≠ .aborted) :
    stage.pending t.time e = sent ++ stage'.pending t.time e := by
  cases hm with
  | start => exact absurd rfl started
  | send p m ms next => simp [Stage.pending, next]
  | settle p next => simp [Stage.pending, next]
  | abort p broken => exact absurd broken (settles p rfl)
  | time => rfl

lemma Stage.Reports.moves (h : stage.Reports t.time t.around e log)
    (hm : stage.Moves t e sent stage') (hs : Settles e.collector) :
    stage'.Reports t.time t.around e (log ++ sent) := by
  cases h with
  | waiting =>
    cases hm with
    | start =>
      refine .begun _ _ t.queue nofun ?_ rfl
      intro p hp
      obtain rfl := Stage.sending.inj hp
      exact hs _ _ _ _
  | begun stage sent q started settles all =>
    refine .begun _ _ q ?_ ?_ ?_
    · cases hm <;> nofun
    · intro p hp
      cases hm with
      | start => exact absurd rfl started
      | send p m ms next =>
        obtain rfl := Stage.sending.inj hp
        exact settles p rfl
      | _ => cases hp
    · rw [List.append_assoc, ← hm.pending started settles, all]

end Task

/-! ### All tasks of a tick -/

lemma map_set_of_eq {α β : Type} {f : α → β} {l : List α} {n : Nat} {a b : α}
    (here : l[n]? = some a) (h : f b = f a) : (l.set n b).map f = l.map f := by
  refine List.ext_getElem (by simp) fun j hj _ => ?_
  simp only [List.getElem_map, List.getElem_set]
  split
  next hnj =>
    subst hnj
    rw [h, (List.getElem?_eq_some_iff.mp here).2]
  next => rfl

namespace Tick

variable {es : List Entry} {t t' : Tick} {x : TickStep}

/-- The tasks of a tick that polls some collectors have sent what they should have by now. -/
structure Sound (es : List Entry) (t : Tick) : Prop where
  distinct : (es.map Entry.name).Nodup
  settles : ∀ e ∈ es, Settles e.collector
  entries : (t.tasks.map Task.entry ++ t.uncounted).Perm es
  reports : ∀ (i : Nat) (k : Task), t.tasks[i]? = some k →
    k.stage.Reports t.time t.around k.entry (Log.about t.log k.name)
  known : ∀ x ∈ t.log, ∀ name, x.1.collector? = some name → ∃ k ∈ t.tasks, k.name = name
  running : t.finished = false → ∀ x ∈ t.log, x.1.collector?.isSome = true
  ended : t.finished = true → t.uncounted = [] ∧ (∀ k ∈ t.tasks, k.stage = .ended) ∧
    ∃ front lasts, t.log = front ++ [(.whole, tickDuration t.time wholeTick lasts)] ∧
      ∀ x ∈ front, x.1.collector?.isSome = true

lemma sound_start (time : Timestamp) (around : Surroundings) (q : Queue Measurement)
    (hn : (es.map Entry.name).Nodup) (hs : ∀ e ∈ es, Settles e.collector) :
    (start time around es q).Sound es :=
  ⟨hn, hs, .refl _, by simp [start], by simp [start], by simp [start], by simp [start]⟩

lemma Sound.withQueue (h : t.Sound es) (q : Queue Measurement) :
    Sound es { t with queue := q } :=
  ⟨h.distinct, h.settles, h.entries, h.reports, h.known, h.running, h.ended⟩

lemma Sound.names_nodup (h : t.Sound es) :
    (t.tasks.map Task.name ++ t.uncounted.map Entry.name).Nodup := by
  have hp := h.entries.map Entry.name
  rw [List.map_append, List.map_map] at hp
  exact hp.nodup_iff.mpr h.distinct

lemma Sound.mem (h : t.Sound es) {k : Task} (hk : k ∈ t.tasks) : k.entry ∈ es :=
  h.entries.subset (List.mem_append_left _ (List.mem_map_of_mem hk))

lemma Sound.about_uncounted (h : t.Sound es) (he : e ∈ t.uncounted) :
    Log.about t.log e.name = [] ∧ ∀ k ∈ t.tasks, k.name ≠ e.name := by
  have hne : ∀ k ∈ t.tasks, k.name ≠ e.name := fun k hk =>
    (List.nodup_append.mp h.names_nodup).2.2 _ (List.mem_map_of_mem hk) _ (List.mem_map_of_mem he)
  refine ⟨about_eq_nil fun x hx hn => ?_, hne⟩
  obtain ⟨k, hk, hkn⟩ := h.known x hx _ hn
  exact hne k hk hkn

lemma Sound.count {i : Nat} (h : t.Sound es) (q : Queue Measurement)
    (here : t.uncounted[i]? = some e) :
    Sound es
      { t with
        queue := q
        log := t.log ++ [(.count e.name, tickCount t.time e.name (e.ticks + 1))]
        uncounted := t.uncounted.eraseIdx i
        tasks := t.tasks ++ [⟨e, .waiting⟩] } := by
  obtain ⟨hi, rfl⟩ := List.getElem?_eq_some_iff.mp here
  obtain ⟨hnone, hne⟩ := h.about_uncounted (List.getElem_mem hi)
  refine ⟨h.distinct, h.settles, ?_, ?_, ?_, ?_, ?_⟩
  · have hp := (List.getElem_cons_eraseIdx_perm hi).append_left (t.tasks.map Task.entry)
    simpa using hp.trans h.entries
  · intro j k hk
    change k.stage.Reports t.time t.around k.entry _
    rw [about_append]
    rw [List.getElem?_append] at hk
    split at hk
    next hj =>
      have hkn := hne k (List.mem_of_getElem? hk)
      rw [about_singleton_eq_nil (by simpa [Sender.collector?] using Ne.symm hkn),
        List.append_nil]
      exact h.reports j k hk
    next =>
      obtain ⟨-, rfl⟩ := List.getElem?_eq_some_iff.mp hk
      simp only [List.getElem_singleton]
      rw [Task.name, hnone, about_eq_self (by simp [Sender.collector?]), List.nil_append]
      exact .waiting
  · intro x hx name hn
    rcases List.mem_append.mp hx with hx | hx
    · obtain ⟨k, hk, hkn⟩ := h.known x hx name hn
      exact ⟨k, List.mem_append_left _ hk, hkn⟩
    · obtain rfl := List.mem_singleton.mp hx
      exact ⟨_, List.mem_append_right _ (List.mem_singleton_self _), Option.some.inj hn⟩
  · intro hf x hx
    rcases List.mem_append.mp hx with hx | hx
    · exact h.running hf x hx
    · obtain rfl := List.mem_singleton.mp hx
      rfl
  · intro hf
    obtain ⟨hu, -, -⟩ := h.ended hf
    simp [hu] at hi

lemma Sound.name_ne {i j : Nat} {k k' : Task} (h : t.Sound es) (hij : i ≠ j)
    (hk : t.tasks[i]? = some k) (hk' : t.tasks[j]? = some k') : k.name ≠ k'.name := by
  intro hn
  have hnodup := (List.nodup_append.mp h.names_nodup).1
  have hi := (List.getElem?_eq_some_iff.mp hk).1
  refine hij ((List.getElem?_inj (by simpa using hi) hnodup).mp ?_)
  simp [hk, hk', hn]

lemma Sound.reports_work {i j : Nat} {stage stage' : Stage} {sent : Log} {k : Task}
    (h : t.Sound es) (here : t.tasks[i]? = some ⟨e, stage⟩) (move : stage.Moves t e sent stage')
    (hj : (t.tasks.set i ⟨e, stage'⟩)[j]? = some k) :
    k.stage.Reports t.time t.around k.entry (Log.about (t.log ++ sent) k.name) := by
  rw [about_append]
  rw [List.getElem?_set] at hj
  split at hj
  next hij =>
    split at hj
    next =>
      obtain rfl := Option.some.inj hj
      rw [Task.name, about_eq_self move.sender]
      exact (h.reports i _ here).moves move (h.settles e (h.mem (List.mem_of_getElem? here)))
    next => cases hj
  next hij =>
    have hne := h.name_ne hij here hj
    rw [about_eq_nil fun x hx hn => hne (Option.some.inj ((move.sender x hx).symm.trans hn)),
      List.append_nil]
    exact h.reports j k hj

lemma Sound.work {i : Nat} {stage stage' : Stage} {sent : Log} (h : t.Sound es)
    (q : Queue Measurement) (failures : List (String × CollectorError)) (aborted : Nat)
    (here : t.tasks[i]? = some ⟨e, stage⟩) (move : stage.Moves t e sent stage') :
    Sound es
      { t with
        queue := q
        log := t.log ++ sent
        tasks := t.tasks.set i ⟨e, stage'⟩
        failures := failures
        aborted := aborted } := by
  have hentries : (t.tasks.set i ⟨e, stage'⟩).map Task.entry = t.tasks.map Task.entry :=
    map_set_of_eq here rfl
  refine ⟨h.distinct, h.settles, ?_, ?_, ?_, ?_, ?_⟩
  · rw [hentries]
    exact h.entries
  · exact fun j k hj => h.reports_work here move hj
  · intro x hx name hn
    have hknown : ∃ k ∈ t.tasks, k.name = name := by
      rcases List.mem_append.mp hx with hx | hx
      · exact h.known x hx name hn
      · refine ⟨_, List.mem_of_getElem? here, ?_⟩
        exact Option.some.inj ((move.sender x hx).symm.trans hn)
    obtain ⟨k, hk, rfl⟩ := hknown
    have hk' : k.entry ∈ (t.tasks.set i ⟨e, stage'⟩).map Task.entry := by
      rw [hentries]
      exact List.mem_map_of_mem hk
    obtain ⟨k', hmem, hk'⟩ := List.mem_map.mp hk'
    exact ⟨k', hmem, congrArg Entry.name hk'⟩
  · intro hf x hx
    rcases List.mem_append.mp hx with hx | hx
    · exact h.running hf x hx
    · rw [move.sender x hx]
      rfl
  · intro hf
    have hended := (h.ended hf).2.1 _ (List.mem_of_getElem? here)
    cases hended
    cases move

lemma Sound.finish (h : t.Sound es) (lasts : Span) (q : Queue Measurement)
    (running : t.finished = false) (counted : t.uncounted = [])
    (ended : ∀ k ∈ t.tasks, k.stage = .ended) :
    Sound es
      { t with
        queue := q
        log := t.log ++ [(.whole, tickDuration t.time wholeTick lasts)]
        finished := true } := by
  refine ⟨h.distinct, h.settles, h.entries, ?_, ?_, nofun, fun _ => ?_⟩
  · intro i k hk
    change k.stage.Reports t.time t.around k.entry _
    rw [about_append, about_singleton_eq_nil (by simp [Sender.collector?]), List.append_nil]
    exact h.reports i k hk
  · intro x hx name hn
    rcases List.mem_append.mp hx with hx | hx
    · exact h.known x hx name hn
    · obtain rfl := List.mem_singleton.mp hx
      cases hn
  · exact ⟨counted, ended, t.log, lasts, rfl, h.running running⟩

lemma Sound.moves (h : t.Sound es) (hm : t.Moves x t') : t'.Sound es := by
  cases hm with
  | consume =>
    exact ⟨h.distinct, h.settles, h.entries, h.reports, h.known, h.running, h.ended⟩
  | count i e q _ here => exact h.count q here
  | work i e stage stage' sent q _ failures aborted here move =>
    exact h.work q failures aborted here move
  | finish lasts q _ running counted ended => exact h.finish lasts q running counted ended

/-- A finished tick has sent a whole report for each of its collectors. -/
lemma Sound.report (h : t.Sound es) (hf : t.finished = true) (he : e ∈ es) :
    ∃ q, Log.about t.log e.name = e.report t.time (e.poll t.time t.around q) := by
  obtain ⟨hu, hended, -⟩ := h.ended hf
  have hmem := h.entries.mem_iff.mpr he
  rw [hu, List.append_nil] at hmem
  obtain ⟨k, hk, rfl⟩ := List.mem_map.mp hmem
  obtain ⟨i, hi⟩ := List.mem_iff_getElem?.mp hk
  have hr := h.reports i k hi
  rw [hended k hk] at hr
  cases hr with
  | begun _ _ q _ _ all =>
    rw [Stage.pending, List.append_nil] at all
    exact ⟨q, all⟩

lemma Sound.stays (h : t.Sound es) (hf : t.finished = true) (hm : t.Moves x t') :
    ∃ q taken, t' = { t with queue := q, taken := taken } := by
  obtain ⟨hu, hended, -⟩ := h.ended hf
  cases hm with
  | consume m q => exact ⟨q, _, rfl⟩
  | count i e q _ here => simp [hu] at here
  | work i e stage stage' sent q _ _ _ here move =>
    obtain rfl : stage = .ended := hended _ (List.mem_of_getElem? here)
    cases move
  | finish lasts q _ running =>
    rw [hf] at running
    cases running

end Tick

end MetricAgent.Collector
