import Mathlib.Data.List.Basic
import MetricAgent.Collector.Scheduler
import MetricAgent.Proofs.Run

/-!
What one step can do to a tick whose queue is open: the consumer takes something, a collector is
counted, a task moves, or the tick ends. All that the task of a collector sends is told by its move.
-/

namespace MetricAgent

/-- A queue is still open after some elements have entered it and others have been taken. -/
structure Queue.Passes {α : Type} (q : Queue α) (entering taken : List α) (q' : Queue α) :
    Prop where
  isOpen : q'.isOpen = true
  capacity : q'.capacity = q.capacity
  items : q.items ++ entering = taken ++ q'.items

namespace Queue.Passes

variable {α : Type} {q : Queue α}

lemma still (ho : q.isOpen = true) : q.Passes [] [] q := ⟨ho, rfl, List.append_nil _⟩

lemma push (ho : q.isOpen = true) (a : α) :
    q.Passes [a] [] { q with items := q.items ++ [a] } := ⟨ho, rfl, rfl⟩

lemma pop {a : α} {rest : List α} (ho : q.isOpen = true) (hi : q.items = a :: rest) :
    q.Passes [] [a] { q with items := rest } := ⟨ho, rfl, by rw [List.append_nil, hi]; rfl⟩

end Queue.Passes

namespace Collector

open Time

abbrev Log := List (Sender × Measurement)

/-- A move of a task, with what it sends. -/
inductive Stage.Moves (t : Tick) (e : Entry) : Stage → Log → Stage → Prop where
  | start : Moves t e .waiting [] (.sending (e.poll t.time t.around t.queue))
  | send (p : Poll) (m : Measurement) (ms : List Measurement) (next : p.readings = m :: ms) :
      Moves t e (.sending p) [(.collector e.name, m)] (.sending { p with readings := ms })
  | settle (p : Poll) (next : p.readings = []) (settled : p.ending ≠ .aborted) :
      Moves t e (.sending p) [] (.timing p.lasts)
  | abort (p : Poll) (broken : p.ending = .aborted) : Moves t e (.sending p) [] .ended
  | time (lasts : Span) :
      Moves t e (.timing lasts) [(.duration e.name, tickDuration t.time e.name lasts)] .ended

namespace Tick

variable {t t' : Tick} {x : TickStep} {i : Nat}

inductive Moves (t : Tick) : TickStep → Tick → Prop where
  | consume (m : Measurement) (q : Queue Measurement) (passes : t.queue.Passes [] [m] q) :
      Moves t .consume { t with queue := q, taken := t.taken ++ [m] }
  | count (i : Nat) (e : Entry) (q : Queue Measurement)
      (passes : t.queue.Passes [tickCount t.time e.name (e.ticks + 1)] [] q)
      (here : t.uncounted[i]? = some e) :
      Moves t (.count i)
        { t with
          queue := q
          log := t.log ++ [(.count e.name, tickCount t.time e.name (e.ticks + 1))]
          uncounted := t.uncounted.eraseIdx i
          tasks := t.tasks ++ [⟨e, .waiting⟩] }
  | work (i : Nat) (e : Entry) (stage stage' : Stage) (sent : Log) (q : Queue Measurement)
      (passes : t.queue.Passes (sent.map Prod.snd) [] q)
      (failures : List (String × CollectorError)) (aborted : Nat)
      (here : t.tasks[i]? = some ⟨e, stage⟩) (move : stage.Moves t e sent stage') :
      Moves t (.work i)
        { t with
          queue := q
          log := t.log ++ sent
          tasks := t.tasks.set i ⟨e, stage'⟩
          failures := failures
          aborted := aborted }
  | finish (lasts : Span) (q : Queue Measurement)
      (passes : t.queue.Passes [tickDuration t.time wholeTick lasts] [] q)
      (running : t.finished = false) (counted : t.uncounted = [])
      (ended : ∀ k ∈ t.tasks, k.stage = .ended) :
      Moves t (.finish lasts)
        { t with
          queue := q
          log := t.log ++ [(.whole, tickDuration t.time wholeTick lasts)]
          finished := true }

lemma send_of_room (who : Sender) (m : Measurement) (ho : t.queue.isOpen = true)
    (hr : t.queue.hasRoom = true) :
    t.send who m = some (true,
      { t with
        queue := { t.queue with items := t.queue.items ++ [m] }
        log := t.log ++ [(who, m)] }) := by
  rw [send, Queue.push_of_room m ho hr]

lemma send_eq_some {who : Sender} {m : Measurement} {y : Bool × Tick} (ho : t.queue.isOpen = true)
    (h : t.send who m = some y) :
    ∃ q, t.queue.Passes [m] [] q ∧
      y = (true, { t with queue := q, log := t.log ++ [(who, m)] }) := by
  cases hr : t.queue.hasRoom with
  | true =>
    rw [send_of_room who m ho hr] at h
    exact ⟨_, .push ho m, (Option.some.inj h).symm⟩
  | false =>
    rw [send, Queue.push_of_full m ho hr] at h
    cases h

lemma isEnded_iff {k : Task} : isEnded k = true ↔ k.stage = .ended := by
  unfold isEnded
  split <;> simp_all

lemma moves_work (ho : t.queue.isOpen = true) (h : t.work i = some t') : t.Moves (.work i) t' := by
  unfold work at h
  split at h
  next => cases h
  next e hk =>
    obtain rfl := Option.some.inj h
    have hm := Moves.work i e _ _ [] t.queue (.still ho) t.failures t.aborted hk .start
    rwa [List.append_nil] at hm
  next e p hk =>
    split at h
    next m ms hp =>
      obtain ⟨y, hy, rfl⟩ := Option.map_eq_some_iff.mp h
      obtain ⟨q, hq, rfl⟩ := send_eq_some ho hy
      exact .work i e _ _ _ q hq _ _ hk (.send p m ms hp)
    next hp =>
      obtain rfl := Option.some.inj h
      split
      next hd =>
        have hm := Moves.work i e _ _ [] t.queue (.still ho) t.failures t.aborted hk
          (.settle p hp (by simp [hd]))
        rwa [List.append_nil] at hm
      next error hd =>
        have hm := Moves.work i e _ _ [] t.queue (.still ho)
          (t.failures ++ [(e.name, error)]) t.aborted hk
          (.settle p hp (by simp [hd]))
        rwa [List.append_nil] at hm
      next hd =>
        have hm := Moves.work i e _ _ [] t.queue (.still ho)
          t.failures (t.aborted + 1) hk (.abort p hd)
        rwa [List.append_nil] at hm
  next e lasts hk =>
    obtain ⟨y, hy, rfl⟩ := Option.map_eq_some_iff.mp h
    obtain ⟨q, hq, rfl⟩ := send_eq_some ho hy
    exact .work i e _ _ _ q hq _ _ hk (.time lasts)
  next => cases h

lemma moves_step (ho : t.queue.isOpen = true) (h : t.step x = some t') : t.Moves x t' := by
  cases x with
  | count i =>
    simp only [step, count] at h
    split at h
    next => cases h
    next e he =>
      obtain ⟨y, hy, rfl⟩ := Option.map_eq_some_iff.mp h
      obtain ⟨q, hq, rfl⟩ := send_eq_some ho hy
      exact .count i e q hq he
  | work i => exact moves_work ho h
  | finish lasts =>
    simp only [step, finish] at h
    split at h
    next hg =>
      simp only [Bool.and_eq_true, Bool.not_eq_true', List.isEmpty_iff, List.all_eq_true] at hg
      obtain ⟨⟨hu, he⟩, hf⟩ := hg
      obtain ⟨y, hy, rfl⟩ := Option.map_eq_some_iff.mp h
      obtain ⟨q, hq, rfl⟩ := send_eq_some ho hy
      exact .finish lasts q hq hf hu fun k hk => isEnded_iff.mp (he k hk)
    next => cases h
  | consume =>
    simp only [step] at h
    split at h
    next m q hp =>
      obtain rfl := Option.some.inj h
      obtain ⟨rest, hr, rfl⟩ := Queue.pop_eq_some.mp hp
      exact .consume m _ (.pop ho hr)
    next => cases h

/-- What is sent enters the queue, and what is sent and taken is noted behind what was before. -/
lemma Moves.passes (hm : t.Moves x t') : ∃ sent taken, t'.log = t.log ++ sent ∧
    t'.taken = t.taken ++ taken ∧ t.queue.Passes (sent.map Prod.snd) taken t'.queue := by
  cases hm with
  | consume m q passes => exact ⟨[], [m], (List.append_nil _).symm, rfl, passes⟩
  | count i e q passes => exact ⟨_, [], rfl, (List.append_nil _).symm, passes⟩
  | work i e stage stage' sent q passes =>
    exact ⟨sent, [], rfl, (List.append_nil _).symm, passes⟩
  | finish lasts q passes => exact ⟨_, [], rfl, (List.append_nil _).symm, passes⟩

lemma Moves.time (hm : t.Moves x t') : t'.time = t.time ∧ t'.around = t.around := by
  cases hm <;> exact ⟨rfl, rfl⟩

end Tick

end Collector

end MetricAgent
