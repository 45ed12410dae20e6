import MetricAgent.Proofs.Collector.Registry
import MetricAgent.Proofs.Collector.Reports

/-!
Ticks one after the other. A tick that has finished can send nothing more, and the next one is not
polled before; so what entered the queue is one block for each tick, in order.
-/

namespace MetricAgent.Collector

open Time

namespace Scheduler

variable {s s' : Scheduler} {x : SchedulerStep}

/-! ### What a step can do -/

/-- A change of a scheduler with an open queue. -/
inductive Moves (s : Scheduler) : SchedulerStep → Scheduler → Prop where
  | register (c : Collector) (idle : s.isIdle = true) :
      Moves s (.register c) { s with registry := s.registry.register c }
  | poll (time : Timestamp) (around : Surroundings) (idle : s.isIdle = true) :
      Moves s (.poll time around)
        { s with
          registry := s.registry.advance
          ticks := s.ticks ++ [.start time around s.registry.entries s.queue] }
  | within (n : Nat) (x : TickStep) (t t' : Tick) (here : s.ticks[n]? = some t)
      (move : Tick.Moves { t with queue := s.queue } x t') :
      Moves s (.within n x)
        { s with
          queue := t'.queue
          passed := s.passed ++ (t'.log.drop t.log.length).map fun (who, m) => (some (n, who), m)
          taken := s.taken ++ t'.taken.drop t.taken.length
          ticks := s.ticks.set n t' }
  | offer (m : Measurement) (q : Queue Measurement) (passes : s.queue.Passes [m] [] q) :
      Moves s (.offer m) { s with queue := q, passed := s.passed ++ [(none, m)] }
  | consume (m : Measurement) (q : Queue Measurement) (passes : s.queue.Passes [] [m] q) :
      Moves s .consume { s with queue := q, taken := s.taken ++ [m] }

lemma moves_step (ho : s.queue.isOpen = true) (h : s.step x = some s') : s.Moves x s' := by
  cases x with
  | register c =>
    simp only [step] at h
    split at h
    next hi =>
      obtain rfl := Option.some.inj h
      exact .register c hi
    next => cases h
  | poll time around =>
    simp only [step] at h
    split at h
    next hi =>
      obtain rfl := Option.some.inj h
      exact .poll time around hi
    next => cases h
  | within n x =>
    obtain ⟨t, ht, h⟩ := Option.bind_eq_some_iff.mp h
    obtain ⟨t', ht', h⟩ := Option.bind_eq_some_iff.mp h
    obtain rfl := Option.some.inj h
    exact .within n x t t' ht (Tick.moves_step ho ht')
  | offer m =>
    simp only [step] at h
    split at h
    next q hq =>
      obtain ⟨hopen, -, rfl⟩ := Queue.push_eq_accepted.mp hq
      obtain rfl := Option.some.inj h
      exact .offer m _ (.push hopen m)
    next => cases h
  | consume =>
    simp only [step] at h
    split at h
    next m q hq =>
      obtain ⟨rest, hr, rfl⟩ := Queue.pop_eq_some.mp hq
      obtain rfl := Option.some.inj h
      exact .consume m _ (.pop ho hr)
    next => cases h

/-! ### Blocks -/

/-- What entered the queue in some ticks, one tick after the other. -/
def blocks (logs : List Log) : List (Nat × Sender × Measurement) :=
  logs.zipIdx.flatMap fun (log, n) => log.map (n, ·)

lemma blocks_snoc (logs : List Log) (log : Log) :
    blocks (logs ++ [log]) = blocks logs ++ log.map (logs.length, ·) := by
  simp [blocks, List.zipIdx_append]

lemma log_eq {m : Measurement} (h : s'.passed = s.passed ++ [(none, m)]) : s'.log = s.log := by
  rw [log, h, List.filterMap_append]
  exact List.append_nil _

lemma log_append {n : Nat} {sent : Log}
    (h : s'.passed = s.passed ++ sent.map fun (who, m) => (some (n, who), m)) :
    s'.log = s.log ++ sent.map (n, ·) := by
  rw [log, h, List.filterMap_append, List.filterMap_map]
  simp [log]

/-- Every tick but the last has finished, and what they sent stands in their order. -/
structure Orderly (s : Scheduler) : Prop where
  isOpen : s.queue.isOpen = true
  capacity : 0 < s.queue.capacity
  names : s.registry.names.Pairwise (· < ·)
  settles : ∀ e ∈ s.registry.entries, Settles e.collector
  sound : ∀ t ∈ s.ticks, ∃ es, t.Sound es
  past : ∀ (n : Nat) (t : Tick), s.ticks[n]? = some t → n + 1 < s.ticks.length → t.finished = true
  log : s.log = blocks (s.ticks.map Tick.log)
  passed : s.taken ++ s.queue.items = s.passed.map Prod.snd

lemma Orderly.names_nodup (h : s.Orderly) : (s.registry.entries.map Entry.name).Nodup :=
  h.names.imp fun hlt => ne_of_lt hlt

lemma Orderly.register (h : s.Orderly) {c : Collector} (hc : Settles c) :
    Orderly { s with registry := s.registry.register c } := by
  refine ⟨h.isOpen, h.capacity, Registry.pairwise_insert h.names, fun e he => ?_, h.sound, h.past,
    h.log, h.passed⟩
  rcases Registry.eq_or_mem_of_mem_insert he with rfl | he
  · exact hc
  · exact h.settles e he

lemma names_advance (r : Registry) : r.advance.names = r.names := by
  simp [Registry.names, Registry.advance, Entry.name]

lemma Orderly.poll (h : s.Orderly) (time : Timestamp) (around : Surroundings)
    (idle : s.isIdle = true) :
    Orderly
      { s with
        registry := s.registry.advance
        ticks := s.ticks ++ [.start time around s.registry.entries s.queue] } := by
  refine ⟨h.isOpen, h.capacity, ?_, fun e he => ?_, fun t ht => ?_, fun n t ht hn => ?_, ?_,
    h.passed⟩
  · rw [names_advance]
    exact h.names
  · obtain ⟨e', he', rfl⟩ := List.mem_map.mp he
    exact h.settles e' he'
  · rcases List.mem_append.mp ht with ht | ht
    · exact h.sound t ht
    · obtain rfl := List.mem_singleton.mp ht
      exact ⟨_, Tick.sound_start time around s.queue h.names_nodup h.settles⟩
  · rw [List.length_append, List.length_singleton] at hn
    rw [List.getElem?_append_left (by omega)] at ht
    exact List.all_eq_true.mp idle t (List.mem_of_getElem? ht)
  · change s.log = _
    simp [blocks_snoc, h.log, Tick.start]

/-- Only the last tick can still send something. -/
lemma Orderly.eq_snoc (h : s.Orderly) {n : Nat} {t : Tick} (here : s.ticks[n]? = some t)
    (hf : t.finished = false) : s.ticks = s.ticks.take n ++ [t] ∧ (s.ticks.take n).length = n := by
  obtain ⟨hn, rfl⟩ := List.getElem?_eq_some_iff.mp here
  have hlast : ¬ n + 1 < s.ticks.length := by
    intro hlt
    rw [h.past n _ here hlt] at hf
    cases hf
  refine ⟨?_, by simp; omega⟩
  rw [List.take_append_getElem, List.take_of_length_le (by omega)]

lemma Orderly.log_within (h : s.Orderly) {n : Nat} {x : TickStep} {t t' : Tick}
    (here : s.ticks[n]? = some t) (move : Tick.Moves { t with queue := s.queue } x t') :
    s.log ++ (t'.log.drop t.log.length).map (n, ·) = blocks ((s.ticks.set n t').map Tick.log) := by
  obtain ⟨es, hs⟩ := h.sound t (List.mem_of_getElem? here)
  cases hf : t.finished with
  | true =>
    obtain ⟨q, taken, rfl⟩ := (hs.withQueue s.queue).stays hf move
    have hsame : (s.ticks.set n { t with queue := q, taken := taken }).map Tick.log =
        s.ticks.map Tick.log :=
      map_set_of_eq here rfl
    simp [hsame, h.log]
  | false =>
    obtain ⟨sent, -, hsent, -⟩ := move.passes
    obtain ⟨hticks, hlen⟩ := h.eq_snoc here hf
    have hset : s.ticks.set n t' = s.ticks.take n ++ [t'] := by
      conv_lhs => rw [hticks]
      rw [List.set_append_right _ _ (by omega), hlen, Nat.sub_self]
      rfl
    have hlog := h.log
    rw [hticks, List.map_append, List.map_singleton, blocks_snoc, List.length_map, hlen] at hlog
    rw [hset, List.map_append, List.map_singleton, blocks_snoc, List.length_map, hlen, hlog,
      hsent]
    simp

lemma Orderly.within (h : s.Orderly) {n : Nat} {x : TickStep} {t t' : Tick}
    (here : s.ticks[n]? = some t) (move : Tick.Moves { t with queue := s.queue } x t') :
    Orderly
      { s with
        queue := t'.queue
        passed := s.passed ++ (t'.log.drop t.log.length).map fun (who, m) => (some (n, who), m)
        taken := s.taken ++ t'.taken.drop t.taken.length
        ticks := s.ticks.set n t' } := by
  obtain ⟨es, hs⟩ := h.sound t (List.mem_of_getElem? here)
  have hs := hs.withQueue s.queue
  obtain ⟨sent, taken, hsent, htaken, passes⟩ := move.passes
  refine ⟨passes.isOpen, passes.capacity ▸ h.capacity, h.names, h.settles, fun u hu => ?_,
    fun m u hu hm => ?_, ?_, ?_⟩
  · rcases List.mem_or_eq_of_mem_set hu with hu | rfl
    · exact h.sound u hu
    · exact ⟨es, hs.moves move⟩
  · rw [List.length_set] at hm
    rw [List.getElem?_set] at hu
    split at hu
    next hnm =>
      subst hnm
      split at hu
      next =>
        obtain rfl := Option.some.inj hu
        have hf : t.finished = true := h.past n t here hm
        obtain ⟨q, taken, rfl⟩ := hs.stays hf move
        exact hf
      next => cases hu
    next => exact h.past m u hu hm
  · rw [log_append (s := s) rfl]
    exact h.log_within here move
  · have hpassed := h.passed
    simp only [hsent, htaken, List.drop_left, List.map_append, List.map_map, Function.comp_def]
    rw [List.append_assoc, ← passes.items, ← List.append_assoc, hpassed]

lemma Orderly.moves (h : s.Orderly) (hx : ∀ c, x = .register c → Settles c) (hm : s.Moves x s') :
    s'.Orderly := by
  cases hm with
  | register c => exact h.register (hx c rfl)
  | poll time around idle => exact h.poll time around idle
  | within n x t t' here move => exact h.within here move
  | offer m q passes =>
    refine ⟨passes.isOpen, passes.capacity ▸ h.capacity, h.names, h.settles, h.sound, h.past,
      (log_eq (s := s) rfl).trans h.log, ?_⟩
    have hitems : s.queue.items ++ [m] = q.items := passes.items
    rw [List.map_append, ← hitems, ← List.append_assoc, h.passed]
    rfl
  | consume m q passes =>
    refine ⟨passes.isOpen, passes.capacity ▸ h.capacity, h.names, h.settles, h.sound, h.past,
      h.log, ?_⟩
    rw [List.append_assoc, ← passes.items, List.append_nil]
    exact h.passed

/-- Of the collectors that some steps register, every poll comes to an end. -/
def AllSettle (steps : List SchedulerStep) : Prop :=
  ∀ c, SchedulerStep.register c ∈ steps → Settles c

/-- What the moves of an orderly scheduler keep holds after steps of collectors that settle. -/
lemma Orderly.run_keeps {P : Scheduler → Prop} {steps : List SchedulerStep} (h : s.Orderly)
    (hs : AllSettle steps)
    (hP : ∀ {s x s'}, x ∈ steps → s.Orderly → P s → s.Moves x s' → P s') (hp : P s) :
    (s.run steps).Orderly ∧ P (s.run steps) :=
  keeps_run_of_mem (P := fun s => s.Orderly ∧ P s)
    (fun hx hsp he =>
      have hm := moves_step hsp.1.isOpen he
      ⟨hsp.1.moves (fun c hc => hs c (hc ▸ hx)) hm, hP hx hsp.1 hsp.2 hm⟩)
    ⟨h, hp⟩

lemma Orderly.run {steps : List SchedulerStep} (h : s.Orderly) (hs : AllSettle steps) :
    (s.run steps).Orderly :=
  (h.run_keeps (P := fun _ => True) hs (fun _ _ _ _ => trivial) trivial).1

/-! ### One tick in a run -/

/-- A tick has been begun in which some collectors are polled. -/
def HasTick (n : Nat) (time : Timestamp) (around : Surroundings) (es : List Entry)
    (s : Scheduler) : Prop :=
  ∃ t, s.ticks[n]? = some t ∧ t.time = time ∧ t.around = around ∧ t.Sound es

lemma HasTick.moves {n : Nat} {time : Timestamp} {around : Surroundings} {es : List Entry}
    (h : HasTick n time around es s) (hm : s.Moves x s') : HasTick n time around es s' := by
  obtain ⟨t, ht, htime, haround, hs⟩ := h
  have hn := (List.getElem?_eq_some_iff.mp ht).1
  cases hm with
  | register => exact ⟨t, ht, htime, haround, hs⟩
  | poll =>
    refine ⟨t, ?_, htime, haround, hs⟩
    rw [List.getElem?_append_left hn]
    exact ht
  | within m x u u' here move =>
    rcases eq_or_ne m n with rfl | hmn
    · obtain rfl := Option.some.inj (ht.symm.trans here)
      exact ⟨u', List.getElem?_set_self hn, move.time.1.trans htime, move.time.2.trans haround,
        (hs.withQueue s.queue).moves move⟩
    · refine ⟨t, ?_, htime, haround, hs⟩
      rw [List.getElem?_set_ne hmn]
      exact ht
  | offer => exact ⟨t, ht, htime, haround, hs⟩
  | consume => exact ⟨t, ht, htime, haround, hs⟩

/-! ### The polls of one collector -/

/-- Every tick from some number on has counted the polls of a collector, and so will the next. -/
structure Counts (c : Collector) (first : Nat) (s : Scheduler) : Prop where
  le : first ≤ s.ticks.length
  next : ⟨c, .ofNat (s.ticks.length - first)⟩ ∈ s.registry.entries
  past : ∀ (k : Nat) (t : Tick), s.ticks[first + k]? = some t →
    ∃ es, t.Sound es ∧ ⟨c, .ofNat k⟩ ∈ es

lemma Counts.poll {c : Collector} {first : Nat} (h : Counts c first s) (ho : s.Orderly)
    (time : Timestamp) (around : Surroundings) :
    Counts c first
      { s with
        registry := s.registry.advance
        ticks := s.ticks ++ [.start time around s.registry.entries s.queue] } := by
  have hle := h.le
  refine ⟨by simp; omega, ?_, fun k t ht => ?_⟩
  · refine List.mem_map.mpr ⟨_, h.next, ?_⟩
    have hsub : s.ticks.length + 1 - first = s.ticks.length - first + 1 := by omega
    simp [hsub, UInt64.ofNat_add]
  · rw [List.getElem?_append] at ht
    split at ht
    next => exact h.past k t ht
    next hk =>
      obtain ⟨hlt, rfl⟩ := List.getElem?_eq_some_iff.mp ht
      rw [List.length_singleton] at hlt
      obtain rfl : k = s.ticks.length - first := by omega
      simp only [List.getElem_singleton]
      exact ⟨_, Tick.sound_start time around s.queue ho.names_nodup ho.settles, h.next⟩

lemma Counts.moves {c : Collector} {first : Nat} (h : Counts c first s) (ho : s.Orderly)
    (hx : ∀ d, x = .register d → d.name ≠ c.name) (hm : s.Moves x s') : Counts c first s' := by
  cases hm with
  | register d =>
    exact ⟨h.le, Registry.mem_insert_of_ne h.next (Ne.symm (hx d rfl)), h.past⟩
  | poll time around => exact h.poll ho time around
  | within n x t t' here move =>
    refine ⟨by rw [List.length_set]; exact h.le, ?_, fun k u hu => ?_⟩
    · rw [List.length_set]
      exact h.next
    · rw [List.getElem?_set] at hu
      split at hu
      next hk =>
        subst hk
        split at hu
        next =>
          obtain rfl := Option.some.inj hu
          obtain ⟨es, hs, he⟩ := h.past k t here
          exact ⟨es, (hs.withQueue s.queue).moves move, he⟩
        next => cases hu
      next => exact h.past k u hu
  | offer => exact ⟨h.le, h.next, h.past⟩
  | consume => exact ⟨h.le, h.next, h.past⟩

end Scheduler

end MetricAgent.Collector
