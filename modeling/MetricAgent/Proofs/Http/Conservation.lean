import Mathlib.Data.List.Nodup
import MetricAgent.Proofs.Http.HandOff
import MetricAgent.Proofs.Http.Moves

/-!
Nothing is lost on the way to the API without being counted: whatever has entered the shared queue
is in exactly one place, and all places together hold it in the order in which it came.
-/

namespace MetricAgent.Http

open Time

variable {α : Type}

namespace Transit

variable {r : Route α} {s s' : Transit α}

/-- The batch under delivery, if there is one. -/
def underWay (s : Transit α) : List (List α) := s.sending.toList.map Sending.batch

/--
What holds the elements that have entered: the queue, what is pending, each waiting batch, the batch
under delivery, each finished and each dropped batch.
-/
def places (s : Transit α) : List (List α) :=
  s.queue.items :: s.batcher.pending ::
    (s.batcher.backlog.items ++ s.underWay ++ s.finished.map Prod.fst ++ s.batcher.dropped)

/-- The state that all steps keep. -/
structure Conserves (r : Route α) (s : Transit α) : Prop where
  sound : s.batcher.Sound r.limits
  pending_lt : s.batcher.pending.length < r.limits.size
  inOrder : s.batcher.received ++ s.queue.items = s.entered
  accepted : s.batcher.accepted =
    s.finished.map Prod.fst ++ s.underWay ++ s.batcher.backlog.items

lemma conserves_start (r : Route α) (capacity : Nat) : (start capacity).Conserves r where
  sound := Batcher.sound_start
  pending_lt := r.limits.size_pos
  inOrder := rfl
  accepted := rfl

lemma Conserves.batcher {b : Batcher α} {q : Queue α} (h : s.Conserves r)
    (hs : b.Sound r.limits) (hp : b.pending.length < r.limits.size)
    (ho : b.received ++ q.items = s.entered) (hb : s.batcher.Extends b) :
    Conserves r { s with queue := q, batcher := b } := by
  refine ⟨hs, hp, ho, ?_⟩
  obtain ⟨bs, ha, hi⟩ := hb
  change b.accepted = s.finished.map Prod.fst ++ s.underWay ++ b.backlog.items
  rw [ha, hi, h.accepted, List.append_assoc _ _ bs]

lemma Conserves.moves (h : s.Conserves r) (hm : Moves r s s') : s'.Conserves r := by
  have hopen := h.sound.isOpen
  cases hm with
  | offer a =>
    refine ⟨h.sound, h.pending_lt, ?_, h.accepted⟩
    rw [← h.inOrder]
    exact (List.append_assoc _ _ _).symm
  | leave => exact ⟨h.sound, h.pending_lt, h.inOrder, h.accepted⟩
  | receive a rest running items =>
    obtain ⟨hs, hp⟩ := h.sound.receive h.pending_lt a
    refine h.batcher hs hp ?_ (Batcher.extends_receive hopen a)
    rw [Batcher.received_receive, ← h.inOrder, items, List.append_assoc]
    rfl
  | pass t =>
    obtain ⟨ho, hc, hl, hz, hm, hd⟩ := h.sound
    exact ⟨⟨ho, hc, hl, hz, hm, hd⟩, h.pending_lt, h.inOrder, h.accepted⟩
  | fire due =>
    have hs := h.sound.handOff due (Nat.le_of_lt h.pending_lt)
    refine h.batcher hs r.limits.size_pos ?_ (Batcher.extends_handOff hopen)
    rw [Batcher.received_handOff, h.inOrder]
  | stop =>
    obtain ⟨hs, hp⟩ := h.sound.close h.pending_lt
    refine h.batcher hs hp ?_ (Batcher.extends_close hopen)
    rw [Batcher.received_close, h.inOrder]
  | take now batch rest idle items =>
    obtain ⟨ho, hc, hl, hz, hm, hd⟩ := h.sound
    refine ⟨⟨ho, hc, ?_, hz, hm, hd⟩, h.pending_lt, h.inOrder, ?_⟩
    · have hlen : rest.length + 1 = s.batcher.backlog.length := by
        rw [Queue.length, items, List.length_cons]
      change rest.length ≤ backlogCapacity
      omega
    · have ha := h.accepted
      rw [items, underWay, idle] at ha
      change s.batcher.accepted = _
      rw [ha]
      simp [underWay]
  | ended b reply result sending ending =>
    refine ⟨h.sound, h.pending_lt, h.inOrder, ?_⟩
    have ha := h.accepted
    rw [underWay, sending] at ha
    change s.batcher.accepted = _
    rw [ha]
    simp [underWay]
  | again b reply left sending ending more =>
    refine ⟨h.sound, h.pending_lt, h.inOrder, ?_⟩
    have ha := h.accepted
    rw [underWay, sending] at ha
    exact ha

theorem conserves_run (r : Route α) (capacity : Nat) (steps : List (TransitStep α)) :
    ((start capacity).run r steps).Conserves r :=
  run_keeps Conserves.moves (conserves_start r capacity) steps

/-! ### Places -/

/-- A batch that was handed off has been taken by the backlog or dropped. -/
lemma Conserves.batches_perm (h : s.Conserves r) :
    s.batcher.batches.Perm (s.batcher.accepted ++ s.batcher.dropped) := by
  have hfull : s.batcher.handedOff.filter (fun x => x.2 = .full) =
      s.batcher.handedOff.filter (fun x => !decide (x.2 = .accepted)) := by
    refine List.filter_congr fun x hx => ?_
    rcases h.sound.met x hx with hm | hm <;> simp [hm]
  rw [Batcher.batches, Batcher.accepted, Batcher.dropped, Batcher.metWith, Batcher.metWith, hfull,
    ← List.map_append]
  exact ((List.filter_append_perm _ _).map Prod.fst).symm

/-- The places hold what has entered, no more and no less. -/
lemma Conserves.entered_perm (h : s.Conserves r) : s.entered.Perm s.places.flatten := by
  have hb : s.batcher.batches.Perm (s.batcher.backlog.items ++ s.underWay ++
      s.finished.map Prod.fst ++ s.batcher.dropped) := by
    refine h.batches_perm.trans (List.Perm.append_right _ ?_)
    rw [h.accepted]
    refine List.perm_append_comm.trans ?_
    rw [List.append_assoc]
    exact List.Perm.append_left _ List.perm_append_comm
  rw [← h.inOrder, places, List.flatten_cons, List.flatten_cons, Batcher.received]
  refine List.perm_append_comm.trans (List.Perm.append_left _ ?_)
  exact List.perm_append_comm.trans (List.Perm.append_left _ hb.flatten)

lemma existsUnique_mem_of_nodup_flatten {ls : List (List α)} (h : ls.flatten.Nodup) {a : α}
    (ha : a ∈ ls.flatten) : ∃! i : Fin ls.length, a ∈ ls[i] := by
  obtain ⟨l, hl, hal⟩ := List.mem_flatten.mp ha
  obtain ⟨i, hi, rfl⟩ := List.mem_iff_getElem.mp hl
  refine ⟨⟨i, hi⟩, hal, ?_⟩
  rintro ⟨j, hj⟩ haj
  have hd := List.pairwise_iff_getElem.mp (List.nodup_flatten.mp h).2
  rcases Nat.lt_trichotomy i j with hij | hij | hij
  · exact absurd haj (List.disjoint_left.mp (hd i j hi hj hij) hal)
  · exact Fin.ext hij.symm
  · exact absurd hal (List.disjoint_left.mp (hd j i hj hi hij) haj)

/-! ### Drops -/

lemma Conserves.handsOff (h : s.Conserves r) (hm : Moves r s s') :
    s.batcher.HandsOff s'.batcher := by
  cases hm with
  | receive a => exact h.sound.handsOff_receive a
  | fire => exact h.sound.handsOff
  | stop => exact h.sound.handsOff_close
  | offer => exact Or.inl rfl
  | leave => exact Or.inl rfl
  | pass => exact Or.inl rfl
  | take => exact Or.inl rfl
  | ended => exact Or.inl rfl
  | again => exact Or.inl rfl

/--
**Conservation.** Along every run, what was handed off, what is pending and what is queued is what
has entered, in order. A batch that was handed off is finished, under delivery, waiting or dropped,
so that every element has exactly one place. Batches are dropped whole, and only by a full backlog.

The clock and the buffers have no bounds here, so that this is about a batcher that asks for nothing
beyond them: within the bounds of `Demand` a run that is served is this run (`Transit.serve_eq_ok`),
and beyond them the batcher breaks down.
-/
theorem each_in_one_place (size timeout capacity : Nat) (d : Delivery)
    (body : Timestamp → List α → String) (steps : List (TransitStep α)) :
    let r : Route α := ⟨.ofSize size timeout, d, body⟩
    let s := (start capacity).run r steps
    s.batcher.batches.flatten ++ s.batcher.pending ++ s.queue.items = s.entered ∧
      s.entered.Perm s.places.flatten ∧
      (s.entered.Nodup → ∀ a ∈ s.entered, ∃! i : Fin s.places.length, a ∈ s.places[i]) ∧
      s.batcher.batches.Perm (s.batcher.accepted ++ s.batcher.dropped) ∧
      s.batcher.accepted = s.finished.map Prod.fst ++ s.underWay ++ s.batcher.backlog.items ∧
      (∀ batch ∈ s.batcher.batches, batch ≠ [] ∧ batch.length ≤ max size 1) ∧
      s.batcher.backlog.length ≤ 8 ∧
      s.batcher.dropCount.toNat = s.batcher.dropped.length % UInt64.size ∧
      ∀ x s', s.step r x = some s' → s.batcher.HandsOff s'.batcher := by
  intro r s
  have h : s.Conserves r := conserves_run r capacity steps
  refine ⟨h.inOrder, h.entered_perm, fun hn a ha => ?_, h.batches_perm, h.accepted,
    h.sound.sizes, h.sound.length_le, ?_, fun x s' hx => h.handsOff (moves_step hx)⟩
  · have hp := h.entered_perm
    exact existsUnique_mem_of_nodup_flatten (hp.nodup_iff.mp hn) (hp.mem_iff.mp ha)
  · rw [h.sound.dropCount, UInt64.toNat_ofNat']

/-- Eight batches of one element each that nobody takes, and a ninth element in the queue. -/
def eightWaiting : List (TransitStep Nat) :=
  (List.range 8).flatMap (fun n => [.offer n, .receive]) ++ [.offer 8]

/-- The ninth element is in one place, and the step that receives it hands it off. -/
theorem each_in_one_place_eightWaiting :
    let r : Route Nat := ⟨.ofSize 1 0, .loopback, fun _ _ => ""⟩
    let s := (start 1).run r eightWaiting
    s.entered.Nodup ∧ 8 ∈ s.entered ∧ (∃! i : Fin s.places.length, 8 ∈ s.places[i]) ∧
      ∃ s', s.step r .receive = some s' ∧ s.batcher.HandsOff s'.batcher := by
  intro r s
  obtain ⟨-, -, hone, -, -, -, -, -, hoff⟩ :=
    each_in_one_place 1 0 1 .loopback (fun _ _ => "") eightWaiting
  have hn : s.entered.Nodup := by decide
  have hm : 8 ∈ s.entered := by decide
  obtain ⟨s', hs'⟩ : ∃ s', s.step r .receive = some s' := Option.isSome_iff_exists.mp (by decide)
  exact ⟨hn, hm, hone hn 8 hm, s', hs', hoff _ _ hs'⟩

end Transit

end MetricAgent.Http
