import MetricAgent.CommandLine.Demand
import MetricAgent.Proofs.Config.Validation
import MetricAgent.Proofs.Http.Moves

/-!
When an agent gets all that it asks for. A configuration without a fault asks for nothing empty, and
what it asks for can be had as long as the capacity of its queue, the size of its batches and the
time that they wait lie below bounds of the runtime. Its checks do not know these bounds.
-/

namespace MetricAgent

open Config Http CommandLine

/-! ### Configurations without a fault -/

/-- A queue, ticks and batches that are not empty. -/
structure Config.AgentConfig.IsFilled (c : AgentConfig) : Prop where
  interval : 0 < c.interval.nanos
  capacity : 0 < c.channelCapacity.toNat
  batchSize : c.output = .http → 0 < c.http.batchSize.toNat

lemma toNat_pos {n : UInt64} (h : n ≠ 0) : 0 < n.toNat :=
  Nat.pos_of_ne_zero fun h0 => h (UInt64.toNat_inj.mp h0)

lemma Config.AgentConfig.isFilled_of_validate {c : AgentConfig} (h : c.validate = .ok c) :
    c.IsFilled := by
  have hvalid := validate_iff_isValid.mp h
  exact ⟨hvalid.interval, toNat_pos hvalid.capacity, fun hhttp => toNat_pos (hvalid.batchSize hhttp)⟩

/-! ### The demands of the batcher -/

namespace Http

variable {α : Type}

lemma Batcher.now_handOff (b : Batcher α) : b.handOff.now = b.now := rfl

lemma Batcher.now_receive (l : BatchLimits) (b : Batcher α) (a : α) :
    (b.receive l a).now = b.now := by
  unfold receive
  dsimp only
  split
  · exact now_handOff _
  · rfl

lemma Batcher.now_close (b : Batcher α) : b.close.now = b.now := by
  unfold close
  split
  · rfl
  · dsimp only
    split
    · rfl
    · exact now_handOff b

namespace Transit

variable {r : Route α} {size clock : Nat} {s s' : Transit α} {x : TransitStep α}

lemma Moves.now_le (h : Moves r s s') : s.batcher.now ≤ s'.batcher.now := by
  cases h with
  | receive a rest => exact Nat.le_of_eq (Batcher.now_receive r.limits s.batcher a).symm
  | pass t later => exact later
  | fire => exact Nat.le_of_eq (Batcher.now_handOff s.batcher).symm
  | stop => exact Nat.le_of_eq (Batcher.now_close s.batcher).symm
  | offer | leave | take | ended | again => exact Nat.le_refl _

lemma now_le_run (r : Route α) (s : Transit α) (steps : List (TransitStep α)) :
    s.batcher.now ≤ (s.run r steps).batcher.now :=
  run_keeps (P := fun s' => s.batcher.now ≤ s'.batcher.now)
    (fun hs hm => Nat.le_trans hs hm.now_le) (Nat.le_refl _) steps

lemma mem_demands {d : Demand} (hd : d ∈ s.demands r size clock x) :
    d = .instant (clock + s.batcher.now) r.limits.timeout ∨ d = .buffer r.limits.size size := by
  unfold demands at hd
  split at hd
  next => cases hd
  next s' hs =>
    rcases List.mem_append.mp hd with hbegins | hbuffer
    · split at hbegins
      next => exact .inl (List.mem_singleton.mp hbegins)
      next => cases hbegins
    · exact .inr (List.eq_of_mem_replicate hbuffer)

lemma serve_cons (r : Route α) (size clock : Nat) (s s' : Transit α) (x : TransitStep α)
    (steps : List (TransitStep α)) : s.serve r size clock (x :: steps) = .ok s' ↔
      (∀ d ∈ s.demands r size clock x, d.isMet = true) ∧
        ((s.step r x).getD s).serve r size clock steps = .ok s' := by
  rw [serve]
  split
  next d hd =>
    have hunmet := List.find?_some hd
    have hmem := List.mem_of_find?_eq_some hd
    refine iff_of_false nofun fun h => ?_
    rw [h.1 d hmem] at hunmet
    cases hunmet
  next hnone =>
    refine (and_iff_right fun d hd => ?_).symm
    have hmet := List.find?_eq_none.mp hnone d hd
    rwa [Bool.not_eq_true, Bool.not_eq_false'] at hmet

lemma isMet_instant_of_le {t t' lasts : Nat} (hle : t ≤ t')
    (h : (Demand.instant t' lasts).isMet = true) : (Demand.instant t lasts).isMet = true := by
  refine decide_eq_true (Nat.lt_of_le_of_lt ?_ (of_decide_eq_true h))
  exact Nat.div_le_div_right (Nat.add_le_add_right hle lasts)

/-- Nothing breaks down if a buffer can be had, and a deadline at the end of the run. -/
lemma serve_eq_ok (hbuffer : (Demand.buffer r.limits.size size).isMet = true)
    (steps : List (TransitStep α))
    (hinstant :
      (Demand.instant (clock + (s.run r steps).batcher.now) r.limits.timeout).isMet = true) :
    s.serve r size clock steps = .ok (s.run r steps) := by
  induction steps generalizing s with
  | nil => rfl
  | cons x steps ih =>
    refine (serve_cons r size clock s _ x steps).mpr ⟨fun d hd => ?_, ih hinstant⟩
    rcases mem_demands hd with rfl | rfl
    · have hnow := now_le_run r s (x :: steps)
      exact isMet_instant_of_le (Nat.add_le_add_left hnow clock) hinstant
    · exact hbuffer

lemma run_pass_offer (r : Route α) {capacity : Nat} (hpos : 0 < capacity) (time : Nat) (a : α) :
    (start capacity).run r [.pass time, .offer a] =
      { start capacity with
        queue := ⟨capacity, [a], true⟩
        entered := [a]
        batcher := { Batcher.start with now := time } } := by
  have hpush : (Queue.ofCapacity capacity).push a = (.accepted, ⟨capacity, [a], true⟩) :=
    Queue.push_of_room a rfl (decide_eq_true hpos)
  simp [run, step, pass, offer, start, Batcher.start, hpush]

lemma now_run_first (r : Route α) {capacity : Nat} (hpos : 0 < capacity) (time : Nat) (a : α) :
    ((start capacity).run r [.pass time, .offer a, .receive]).batcher.now = time := by
  change (((((start capacity).run r [.pass time, .offer a]).step r .receive)).getD
    ((start capacity).run r [.pass time, .offer a])).batcher.now = time
  rw [run_pass_offer r hpos time a]
  exact Batcher.now_receive r.limits { Batcher.start with now := time } a

lemma isMet_of_serve (steps : List (TransitStep α))
    (h : s.serve r size clock (steps ++ [x]) = .ok s') :
    ∀ d ∈ (s.run r steps).demands r size clock x, d.isMet = true := by
  induction steps generalizing s with
  | nil => exact ((serve_cons r size clock s s' x []).mp h).1
  | cons y steps ih => exact ih ((serve_cons r size clock s s' y (steps ++ [x])).mp h).2

lemma instant_mem_demands (hp : s.batcher.pending = []) (hs : s.step r .receive = some s') :
    .instant (clock + s.batcher.now) r.limits.timeout ∈ s.demands r size clock .receive := by
  rw [demands, hs]
  refine List.mem_append_left _ ?_
  rw [begins, hp]
  exact List.mem_singleton_self _

/-- A first element can only be served if its deadline can be had. -/
lemma isMet_instant_of_serve {capacity : Nat} (hpos : 0 < capacity) (time : Nat) (a : α)
    (h : (start capacity).serve r size clock [.pass time, .offer a, .receive] = .ok s') :
    (Demand.instant (clock + time) r.limits.timeout).isMet = true := by
  have hmet := isMet_of_serve [.pass time, .offer a] h
  rw [run_pass_offer r hpos time a] at hmet
  exact hmet _ (instant_mem_demands rfl rfl)

end Transit

end Http

/-! ### The output of a configuration -/

namespace Output

variable {c : AgentConfig} {o : Output} {limits : BatchLimits} {d : Delivery}

lemma build_eq_sender (h : Output.build c = .ok (.sender limits d)) :
    c.output = .http ∧ limits = batchLimits c := by
  unfold build at h
  split at h
  next => cases h
  next => cases h
  next hhttp =>
    cases hd : delivery c with
    | error e =>
      rw [hd] at h
      cases h
    | ok d' =>
      rw [hd] at h
      cases h
      exact ⟨hhttp, rfl⟩

lemma exists_sender (h : Output.build c = .ok o) (hhttp : c.output = .http) :
    ∃ d, o = .sender (batchLimits c) d := by
  unfold build at h
  rw [hhttp] at h
  cases hd : delivery c with
  | error e =>
    rw [hd] at h
    cases h
  | ok d =>
    rw [hd] at h
    cases h
    exact ⟨d, rfl⟩

lemma exists_of_isOk (h : (Output.build c).isOk = true) : ∃ o, Output.build c = .ok o := by
  cases ho : Output.build c with
  | ok o => exact ⟨o, rfl⟩
  | error e =>
    rw [ho] at h
    cases h

lemma size_batchLimits (h : 0 < c.http.batchSize.toNat) :
    (batchLimits c).size = c.http.batchSize.toNat :=
  Nat.max_eq_left h

end Output

/-! ### The bounds of a configuration -/

namespace CommandLine

/-- The fields of a configuration lie within the bounds of the runtime, until some time. -/
structure WithinBounds (size clock time : Nat) (c : AgentConfig) : Prop where
  capacity : c.channelCapacity.toNat < capacityBound
  batchSize : c.output = .http → c.http.batchSize.toNat * size ≤ Demand.maxBytes
  batchTimeout : c.output = .http →
    (clock + time + c.http.batchTimeout.nanos) / Time.Span.perSecond < Demand.clockBound

/-- An agent gets all that it asks for, at its start and for its batches until some time. -/
structure IsServed (size clock time : Nat) (c : AgentConfig) (o : Output) : Prop where
  start : ∀ d ∈ c.demands size o, d.isMet = true
  batches : ∀ limits d steps, o = .sender limits d →
    let r := d.route limits
    let s := (Transit.start c.channelCapacity.toNat).run r steps
    s.batcher.now ≤ time →
      (Transit.start c.channelCapacity.toNat).serve r size clock steps = .ok s

variable {c : AgentConfig} {o : Output} {size clock time : Nat}

lemma WithinBounds.isServed (h : WithinBounds size clock time c) (hc : c.IsFilled)
    (ho : Output.build c = .ok o) : IsServed size clock time c o := by
  -- what a sender needs for its batches, at its start and later
  have hbuffer : ∀ limits d, o = .sender limits d →
      (Demand.buffer limits.size size).isMet = true := by
    rintro limits d rfl
    obtain ⟨hhttp, rfl⟩ := Output.build_eq_sender ho
    rw [Output.size_batchLimits (hc.batchSize hhttp)]
    exact decide_eq_true (h.batchSize hhttp)
  constructor
  case start =>
    intro d hd
    rcases List.mem_append.mp hd with hd | hd
    · rcases List.mem_append.mp hd with hd | hd
      · obtain rfl := List.mem_singleton.mp hd
        exact Bool.and_eq_true_iff.mpr ⟨decide_eq_true hc.capacity, decide_eq_true h.capacity⟩
      · cases o with
        | writer f => cases hd
        | sender limits delivery =>
          rcases List.mem_pair.mp hd with rfl | rfl
          · rfl
          · exact hbuffer limits delivery rfl
    · obtain rfl := List.mem_singleton.mp hd
      exact decide_eq_true hc.interval
  case batches =>
    rintro limits d steps rfl r s hnow
    obtain ⟨hhttp, hlimits⟩ := Output.build_eq_sender ho
    refine Transit.serve_eq_ok (hbuffer limits d rfl) steps ?_
    refine Transit.isMet_instant_of_le (Nat.add_le_add_left hnow clock) (decide_eq_true ?_)
    change (clock + time + limits.timeout) / Time.Span.perSecond < Demand.clockBound
    rw [hlimits]
    exact h.batchTimeout hhttp

lemma IsServed.withinBounds (h : IsServed size clock time c o) (hc : c.IsFilled)
    (ho : Output.build c = .ok o) : WithinBounds size clock time c := by
  constructor
  case capacity =>
    have hqueue := h.start (.queue c.channelCapacity.toNat)
      (List.mem_append_left _ List.mem_cons_self)
    exact of_decide_eq_true (Bool.and_eq_true_iff.mp hqueue).2
  case batchSize =>
    intro hhttp
    obtain ⟨d, rfl⟩ := Output.exists_sender ho hhttp
    have hbuffer := h.start (.buffer (Output.batchLimits c).size size)
      (by simp [AgentConfig.demands, Output.demands])
    rw [Output.size_batchLimits (hc.batchSize hhttp)] at hbuffer
    exact of_decide_eq_true hbuffer
  case batchTimeout =>
    intro hhttp
    obtain ⟨d, rfl⟩ := Output.exists_sender ho hhttp
    have hserve := h.batches (Output.batchLimits c) d [.pass time, .offer default, .receive] rfl
      (Nat.le_of_eq (Transit.now_run_first _ hc.capacity time default))
    exact of_decide_eq_true (Transit.isMet_instant_of_serve hc.capacity time default hserve)

lemma build_eq_overflowed (site : Site) :
    build site c = .overflowed ↔ capacityBound ≤ c.channelCapacity.toNat := by
  unfold build
  split
  next h => exact iff_of_true rfl h
  next h =>
    refine iff_of_false (fun heq => ?_) h
    split at heq
    next => cases heq
    next => split at heq <;> cases heq

/--
**Bounds of a valid configuration.** An agent whose configuration has no fault gets all that it asks
for exactly if the capacity of its queue, the size of its batches and the end of their wait lie
within the bounds of the runtime: its ticks and queues are never empty, and no batch asks for a
later instant. The start itself breaks down exactly if the queue is too large.
-/
theorem isServed_iff_withinBounds {c : AgentConfig} (hc : c.validate = .ok c) :
    (∀ site, build site c = .overflowed ↔ capacityBound ≤ c.channelCapacity.toNat) ∧
      ∀ o, Output.build c = .ok o → ∀ size clock time,
        IsServed size clock time c o ↔ WithinBounds size clock time c := by
  have hfilled := AgentConfig.isFilled_of_validate hc
  exact ⟨build_eq_overflowed, fun o ho size clock time =>
    ⟨fun h => h.withinBounds hfilled ho, fun h => h.isServed hfilled ho⟩⟩

/-- The default configuration, with deliveries to the host itself. -/
def delivering : AgentConfig :=
  { AgentConfig.default with
    collectors := []
    output := .http
    http := { HttpConfig.default with url := "http://[::1]/" } }

/-- With the default limits, measurements of 200 bytes are delivered for thirty years. -/
theorem isServed_iff_withinBounds_delivering :
    delivering.validate = .ok delivering ∧ ∃ o, Output.build delivering = .ok o ∧
      IsServed 200 0 (1000000000 * Time.Span.perSecond) delivering o := by
  have hc : delivering.validate = .ok delivering := AgentConfig.validate_eq_ok.mpr (by decide)
  obtain ⟨o, ho⟩ := Output.exists_of_isOk (c := delivering) (by decide)
  have hbounds : WithinBounds 200 0 (1000000000 * Time.Span.perSecond) delivering :=
    ⟨by decide, fun _ => by decide, fun _ => by decide⟩
  exact ⟨hc, o, ho, ((isServed_iff_withinBounds hc).2 o ho 200 0 _).mpr hbounds⟩

/-! ### Valid configurations beyond the bounds -/

/-- A configuration without a fault that asks for more than can be had, at any time. -/
def IsUnserved (c : AgentConfig) : Prop :=
  c.validate = .ok c ∧ ∃ o, Output.build c = .ok o ∧
    ∀ size clock time, 0 < size → ¬ IsServed size clock time c o

lemma isUnserved_of_not_withinBounds (hfault : c.fault? = none)
    (hbuild : (Output.build c).isOk = true)
    (h : ∀ size clock time, 0 < size → ¬ WithinBounds size clock time c) : IsUnserved c := by
  have hc := AgentConfig.validate_eq_ok.mpr hfault
  obtain ⟨o, ho⟩ := Output.exists_of_isOk hbuild
  refine ⟨hc, o, ho, fun size clock time hsize hserved => h size clock time hsize ?_⟩
  exact hserved.withinBounds (AgentConfig.isFilled_of_validate hc) ho

/-- A queue that is too large. -/
def withCapacity : AgentConfig := { delivering with channelCapacity := 2305843009213693952 }

/-- Batches that are too large. -/
def withBatchSize : AgentConfig :=
  { delivering with http := { delivering.http with batchSize := 9223372036854775808 } }

/-- Batches that wait too long. -/
def withBatchTimeout : AgentConfig :=
  { delivering with
    http := { delivering.http with batchTimeout := .ofSeconds 9223372036854775808 } }

/-- Each of the three bounds can be broken in a configuration without a fault. -/
theorem valid_beyond_bounds :
    (∀ site, build site withCapacity = .overflowed) ∧ IsUnserved withCapacity ∧
      IsUnserved withBatchSize ∧ IsUnserved withBatchTimeout := by
  refine ⟨fun site => (build_eq_overflowed site).mpr (by decide), ?capacity, ?size, ?timeout⟩
  case capacity =>
    refine isUnserved_of_not_withinBounds (by decide) (by decide) fun size clock time _ h => ?_
    exact absurd h.capacity (by decide)
  case size =>
    refine isUnserved_of_not_withinBounds (by decide) (by decide) fun size clock time hsize h => ?_
    have hbytes := Nat.le_trans (Nat.le_mul_of_pos_right _ hsize) (h.batchSize rfl)
    exact absurd hbytes (by decide)
  case timeout =>
    refine isUnserved_of_not_withinBounds (by decide) (by decide) fun size clock time _ h => ?_
    have hseconds := (Nat.div_lt_iff_lt_mul (by decide)).mp (h.batchTimeout rfl)
    have hnanos : Demand.clockBound * Time.Span.perSecond ≤
        withBatchTimeout.http.batchTimeout.nanos := by decide
    omega

end CommandLine

end MetricAgent
