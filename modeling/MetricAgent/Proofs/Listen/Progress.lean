import MetricAgent.Proofs.Listen.Outcome

/-!
A connection whose stream is over comes to its end if its task goes on and the consumer makes room.
-/

namespace MetricAgent.Listen

open Submission

namespace Connection

variable {c c' : Connection} {e : Effect}

/-- How many steps a task may still take once its stream is over, up to four for each line. -/
def stepsLeft (c : Connection) : Nat :=
  match c.stage with
  | .reading => 4 * c.unread.length + 1
  | .parsing _ => 4 * c.unread.length + 4
  | .sending _ => 4 * c.unread.length + 3
  | .counting => 4 * c.unread.length + 2
  | .ended _ => 0

lemma stepsLeft_le (c : Connection) : c.stepsLeft ≤ Listener.stepsFor c.unread := by
  unfold stepsLeft Listener.stepsFor
  split <;> omega

lemma ended_of_stepsLeft (h : c.stepsLeft = 0) : ∃ r, c.stage = .ended r := by
  cases hs : c.stage with
  | ended r => exact ⟨r, rfl⟩
  | _ => simp [stepsLeft, hs] at h

lemma stage_of_endReason {r : EndReason} (h : c.endReason? = some r) : c.stage = .ended r := by
  unfold endReason? at h
  split at h
  next hs => rw [hs, Option.some.inj h]
  next => cases h

lemma exists_next (ho : c.isOver = true) (hs : c.stepsLeft ≠ 0) :
    ∃ c' e, c.next? = some (c', e) ∧ c'.stepsLeft < c.stepsLeft := by
  unfold next?
  cases hstage : c.stage with
  | reading =>
    cases hn : nextLine? c.isOver c.unread with
    | some y =>
      refine ⟨_, _, rfl, ?_⟩
      have hlt := length_lt_of_nextLine hn
      cases lineText? y.1 with
      | some text =>
        simp only [stepsLeft, hstage, Option.elim_some]
        omega
      | none => simp [stepsLeft, hstage]
    | none =>
      rw [ho]
      exact ⟨_, _, rfl, by simp [stepsLeft, hstage]⟩
  | parsing text =>
    dsimp only
    cases parseLine collectorName text.toList with
    | ok m => exact ⟨_, _, rfl, by simp [stepsLeft, hstage]⟩
    | error err => exact ⟨_, _, rfl, by simp [stepsLeft, hstage]⟩
  | sending m => exact ⟨_, _, rfl, by simp [stepsLeft, hstage]⟩
  | counting => exact ⟨_, _, rfl, by simp [stepsLeft, hstage]⟩
  | ended r => simp [stepsLeft, hstage] at hs

end Connection

namespace Listener

variable {l : Listener} {x : Event} {i room : Nat} {c : Connection}

/-- The consumer takes a measurement and the task of a connection a step, again and again. -/
def rounds (i : Nat) : Nat → List Event
  | 0 => []
  | n + 1 => .consume :: .work i :: rounds i n

lemma of_mem_rounds {n : Nat} (h : x ∈ rounds i n) : x = .consume ∨ x = .work i := by
  induction n with
  | zero => cases h
  | succ n ih =>
    rcases List.mem_cons.mp h with rfl | h
    · exact Or.inl rfl
    · rcases List.mem_cons.mp h with rfl | h
      · exact Or.inr rfl
      · exact ih h

lemma IsServed.consume (h : l.IsServed room) (hroom : 1 ≤ room) :
    let l' := (l.step .consume).getD l
    l'.connections = l.connections ∧ l'.queue.isOpen = true ∧ l'.queue.hasRoom = true := by
  intro l'
  have hcap := h.capacity
  have hle := h.length_le
  unfold Queue.length at hle
  cases hq : l.queue.items with
  | nil =>
    have hl : l' = l := by simp [l', Listener.step, Queue.pop, hq]
    rw [hl]
    refine ⟨rfl, h.isOpen, decide_eq_true ?_⟩
    rw [Queue.length, hq, hcap]
    exact hroom
  | cons m rest =>
    have hl : l' = { l with queue := { l.queue with items := rest }, left := l.left ++ [m] } := by
      simp [l', Listener.step, Queue.pop, hq]
    rw [hl]
    refine ⟨rfl, h.isOpen, decide_eq_true ?_⟩
    rw [hq] at hle
    rw [hcap]
    exact hle

lemma IsServed.round (h : l.IsServed room) (hroom : 1 ≤ room) (hc : l.connections[i]? = some c)
    (ho : c.isOver = true) :
    ∃ c', (l.run [.consume, .work i]).connections[i]? = some c' ∧ c'.received = c.received ∧
      c'.isOver = true ∧ c'.stepsLeft ≤ c.stepsLeft - 1 := by
  obtain ⟨hsame, hopen, hr⟩ := h.consume hroom
  generalize hl' : (l.step .consume).getD l = l' at hsame hopen hr
  have hrun : l.run [.consume, .work i] = (l'.work i).getD l' := by
    rw [← hl']
    rfl
  have hc' : l'.connections[i]? = some c := hsame ▸ hc
  rw [hrun, work_of_open hc' hopen]
  -- an ended connection stays as it is, and `0 - 1` is `0`
  by_cases hs : c.stepsLeft = 0
  · obtain ⟨r, hr⟩ := Connection.ended_of_stepsLeft hs
    have hn : c.next? = none := by simp [Connection.next?, hr]
    rw [hn]
    exact ⟨c, hc', rfl, ho, by omega⟩
  · obtain ⟨d, e, hn, hlt⟩ := Connection.exists_next ho hs
    obtain ⟨hreceived, hover⟩ := Connection.next_keeps hn
    refine ⟨d, ?_, hreceived, hover.trans ho, by omega⟩
    rw [hn, Option.bind_some, advance, if_pos (Or.inr hr)]
    exact List.getElem?_set_self (List.getElem?_eq_some_iff.mp hc').1

/-- As many rounds as there may be steps end a connection. -/
lemma IsServed.rounds {n : Nat} (h : l.IsServed room) (hroom : 1 ≤ room)
    (hc : l.connections[i]? = some c) (ho : c.isOver = true) (hn : c.stepsLeft ≤ n) :
    ∃ c' r, (l.run (rounds i n)).connections[i]? = some c' ∧ c'.received = c.received ∧
      c'.isOver = true ∧ c'.endReason? = some r := by
  induction n generalizing l c with
  | zero =>
    obtain ⟨r, hr⟩ := Connection.ended_of_stepsLeft (Nat.le_zero.mp hn)
    exact ⟨c, r, hc, rfl, ho, by rw [Connection.endReason?, hr]⟩
  | succ n ih =>
    obtain ⟨d, hd, hreceived, hover, hle⟩ := h.round hroom hc ho
    have hserved : (l.run [.consume, .work i]).IsServed room := by
      refine keeps_run_of_mem (P := fun l : Listener => l.IsServed room) (fun hx hl hs => ?_) h
      refine hl.step ?_ hs
      rintro rfl
      simp at hx
    obtain ⟨c', r, hc', hsame, hended⟩ := ih hserved hd hover (by omega)
    exact ⟨c', r, hc', hsame.trans hreceived, hended⟩

end Listener

end MetricAgent.Listen
