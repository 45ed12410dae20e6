import Mathlib.Data.List.Basic
import MetricAgent.Http.Transit
import MetricAgent.Proofs.Run

/-!
What one step on the way to the API can change. A step is one of a few moves, and an invariant of
the moves holds along every run.
-/

namespace MetricAgent.Http

open Time

variable {α : Type}

/-! ### How an attempt ends -/

namespace Delivery

/-- The result that a reply brings when so many attempts are left, if it ends the delivery. -/
def ending? (d : Delivery) (left : Nat) (reply : Reply) : Option (Except DeliveryError Unit) :=
  match d.outcome reply with
  | .delivered => some (.ok ())
  | .rejected status body => some (.error (.rejected status body))
  | .retry reason => if left = 0 then some (.error (.exhausted maxAttempts reason)) else none

/-- The reply asks for another attempt. -/
def Retries (d : Delivery) (reply : Reply) : Prop := ∃ reason, d.outcome reply = .retry reason

variable {d : Delivery} {left : Nat} {reply : Reply} {result : Except DeliveryError Unit}

lemma retries_of_ending_none (h : d.ending? left reply = none) : d.Retries reply := by
  unfold ending? at h
  cases ho : d.outcome reply with
  | retry reason => exact ⟨reason, ho⟩
  | delivered => simp [ho] at h
  | rejected status body => simp [ho] at h

lemma left_of_ending_none (h : d.ending? left reply = none) : ∃ n, left = n + 1 := by
  obtain ⟨reason, ho⟩ := retries_of_ending_none h
  unfold ending? at h
  refine Nat.exists_eq_succ_of_ne_zero fun h0 => ?_
  simp [ho, h0] at h

lemma left_of_retries (h : d.ending? left reply = some result) (hr : d.Retries reply) :
    left = 0 := by
  obtain ⟨reason, ho⟩ := hr
  unfold ending? at h
  by_contra hl
  simp [ho, hl] at h

/-- A delivery to the host itself, without credentials. -/
def loopback : Delivery where
  url := ⟨"http".toList, [], none, some (.ipv4 0x7F000001), none, .segments [[]], none, none⟩
  user := none
  token := none
  networkTimeout := .ofSeconds 10
  backoff := initialBackoff
  options := ⟨none, none, none, false⟩

end Delivery

/-! ### Moves -/

lemma Batcher.isDueAt_iff {b : Batcher α} {t : Nat} :
    b.isDueAt t = true ↔ b.pending ≠ [] ∧ b.deadline ≤ t := by
  simp [isDueAt]

namespace Transit

variable {r : Route α} {s s' : Transit α}

/-- A change that a step can make. -/
inductive Moves (r : Route α) (s : Transit α) : Transit α → Prop where
  | offer (a : α) (ending : s.isEnding = false) (isOpen : s.queue.isOpen = true)
      (room : s.queue.hasRoom = true) :
      Moves r s
        { s with
          queue := { s.queue with items := s.queue.items ++ [a] }
          entered := s.entered ++ [a] }
  | leave : Moves r s { s with isEnding := true }
  | receive (a : α) (rest : List α) (running : s.batcher.stopped = false)
      (items : s.queue.items = a :: rest) :
      Moves r s
        { s with
          queue := { s.queue with items := rest }
          batcher := s.batcher.receive r.limits a }
  | pass (t : Nat) (later : s.batcher.now ≤ t)
      (inTime : s.batcher.pending = [] ∨ t ≤ s.batcher.deadline) :
      Moves r s { s with batcher := { s.batcher with now := t } }
  | fire (due : s.batcher.pending ≠ []) (late : s.batcher.deadline ≤ s.batcher.now) :
      Moves r s { s with batcher := s.batcher.handOff }
  | stop (ending : s.isEnding = true) (empty : s.queue.items = []) :
      Moves r s { s with batcher := s.batcher.close }
  | take (now : Timestamp) (batch : List α) (rest : List (List α)) (idle : s.sending = none)
      (items : s.batcher.backlog.items = batch :: rest) :
      Moves r s
        { s with
          batcher := { s.batcher with backlog := { s.batcher.backlog with items := rest } }
          sending := some ⟨batch, r.delivery.request (r.body now batch), maxAttempts - 1,
            r.delivery.backoff⟩ }
  | ended (b : Sending α) (reply : Reply) (result : Except DeliveryError Unit)
      (sending : s.sending = some b) (ending : r.delivery.ending? b.left reply = some result) :
      Moves r s
        { s with
          exchanges := s.exchanges ++ [(b.request, reply)]
          sending := none
          finished := s.finished ++ [(b.batch, result)] }
  | again (b : Sending α) (reply : Reply) (left : Nat) (sending : s.sending = some b)
      (ending : r.delivery.ending? b.left reply = none) (more : b.left = left + 1) :
      Moves r s
        { s with
          exchanges := s.exchanges ++ [(b.request, reply)]
          sending := some { b with left := left, pause := b.pause.double }
          pauses := s.pauses ++ [b.pause] }

lemma moves_offer {a : α} (h : s.offer a = some s') : Moves r s s' := by
  unfold offer at h
  split at h
  next q hi hp =>
    obtain ⟨ho, hr, rfl⟩ := Queue.push_eq_accepted.mp hp
    obtain rfl := Option.some.inj h
    exact .offer a hi ho hr
  next => cases h

lemma moves_receive (h : s.receive r.limits = some s') : Moves r s s' := by
  unfold receive at h
  split at h
  next a q hs hp =>
    obtain ⟨rest, hi, rfl⟩ := Queue.pop_eq_some.mp hp
    obtain rfl := Option.some.inj h
    exact .receive a rest hs hi
  next => cases h

lemma pass_eq_some {t : Nat} : s.pass t = some s' ↔
    (s.batcher.now ≤ t ∧ (s.batcher.pending = [] ∨ t ≤ s.batcher.deadline)) ∧
      s' = { s with batcher := { s.batcher with now := t } } := by
  rw [pass, Option.ite_none_right_eq_some, Option.some.injEq, Bool.and_eq_true,
    Bool.or_eq_true, decide_eq_true_iff, decide_eq_true_iff, List.isEmpty_iff]
  exact and_congr_right fun _ => eq_comm

lemma moves_take {now : Timestamp} (h : s.take r now = some s') : Moves r s s' := by
  unfold take at h
  split at h
  next batch b hs hb =>
    unfold Batcher.take at hb
    rcases hp : s.batcher.backlog.pop with ⟨_ | batch', q⟩
    · rw [hp] at hb
      cases hb
    · rw [hp] at hb
      obtain ⟨rest, hi, rfl⟩ := Queue.pop_eq_some.mp hp
      cases hb
      obtain rfl := Option.some.inj h
      exact .take now batch rest hs hi
  next => cases h

lemma moves_attempt {reply : Reply} (h : s.attempt r.delivery reply = some s') :
    Moves r s s' := by
  unfold attempt at h
  obtain ⟨b, hb, rfl⟩ := Option.map_eq_some_iff.mp h
  cases ho : r.delivery.outcome reply with
  | delivered =>
    have he : r.delivery.ending? b.left reply = some (.ok ()) := by
      simp [Delivery.ending?, ho]
    exact .ended b reply _ hb he
  | rejected status body =>
    have he : r.delivery.ending? b.left reply = some (.error (.rejected status body)) := by
      simp [Delivery.ending?, ho]
    exact .ended b reply _ hb he
  | retry reason =>
    cases hl : b.left with
    | zero =>
      have he : r.delivery.ending? b.left reply =
          some (.error (.exhausted maxAttempts reason)) := by
        simp [Delivery.ending?, ho, hl]
      exact .ended b reply _ hb he
    | succ left =>
      have he : r.delivery.ending? b.left reply = none := by
        simp [Delivery.ending?, ho, hl]
      exact .again b reply left hb he hl

lemma moves_step {x : TransitStep α} (h : s.step r x = some s') : Moves r s s' := by
  cases x with
  | offer a => exact moves_offer h
  | leave =>
    obtain rfl := Option.some.inj h
    exact .leave
  | receive => exact moves_receive h
  | pass t =>
    obtain ⟨⟨hlater, htime⟩, rfl⟩ := pass_eq_some.mp h
    exact .pass t hlater htime
  | fire =>
    simp only [step] at h
    split at h
    next hd =>
      obtain ⟨hdue, hlate⟩ := Batcher.isDueAt_iff.mp hd
      obtain rfl := Option.some.inj h
      exact .fire hdue hlate
    next => cases h
  | stop =>
    simp only [step] at h
    split at h
    next hs =>
      obtain ⟨he, hq⟩ := Bool.and_eq_true_iff.mp hs
      obtain rfl := Option.some.inj h
      exact .stop he (List.isEmpty_iff.mp hq)
    next => cases h
  | take now => exact moves_take h
  | attempt reply => exact moves_attempt h

/-- What every move keeps holds along a run. -/
theorem run_keeps {P : Transit α → Prop} (h : ∀ {s s'}, P s → Moves r s s' → P s') (hs : P s)
    (steps : List (TransitStep α)) : P (s.run r steps) :=
  keeps_run (fun hs hx => h hs (moves_step hx)) hs steps

end Transit

end MetricAgent.Http
