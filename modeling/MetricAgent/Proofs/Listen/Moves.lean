import Mathlib.Data.List.Basic
import MetricAgent.Listen.Connection
import MetricAgent.Proofs.Run

/-!
What one event can change at a listener. Apart from a new connection and from what others do to the
queue, it is a move of one connection, and all that it does to what the connections share follows
from the move.
-/

namespace MetricAgent.Listen

open Submission

/-! ### Moves of a connection -/

/-- What a move of a connection does to what all connections share. -/
inductive Effect where
  | nothing
  /-- A measurement enters the queue. -/
  | enters (m : Measurement)
  /-- A measurement is counted. -/
  | counts
  /-- A refused line is counted. -/
  | rejects

namespace Effect

/-- What enters the queue. -/
def entering : Effect → List Measurement
  | enters m => [m]
  | nothing | counts | rejects => []

/-- The counts afterwards. -/
def count (s : Stats) : Effect → Stats
  | counts => { s with metrics := s.metrics + 1 }
  | rejects => { s with parseErrors := s.parseErrors + 1 }
  | nothing | enters _ => s

end Effect

/-- A change of a connection, by its other side or by its task. -/
inductive Connection.Moves (c : Connection) : Effect → Connection → Prop where
  | arrive (bytes : Bytes) (running : c.isOver = false) :
      Moves c .nothing { c with received := c.received ++ bytes, unread := c.unread ++ bytes }
  | close (running : c.isOver = false) : Moves c .nothing { c with isOver := true }
  | interrupt (r : EndReason) (stage : c.stage = .reading)
      (cause : r = .readError ∨ r = .idleTimeout) : Moves c .nothing { c with stage := .ended r }
  | line (line rest : Bytes) (text : String) (stage : c.stage = .reading)
      (next : nextLine? c.isOver c.unread = some (line, rest))
      (isText : lineText? line = some text) :
      Moves c .nothing { c with unread := rest, stage := .parsing text }
  | garbled (line rest : Bytes) (stage : c.stage = .reading)
      (next : nextLine? c.isOver c.unread = some (line, rest)) (noText : lineText? line = none) :
      Moves c .nothing { c with unread := rest, stage := .ended .readError }
  | finish (stage : c.stage = .reading) (next : nextLine? c.isOver c.unread = none)
      (isOver : c.isOver = true) : Moves c .nothing { c with stage := .ended .endOfStream }
  | parse (text : String) (m : Measurement) (stage : c.stage = .parsing text)
      (parsed : parseLine collectorName text.toList = .ok m) :
      Moves c .nothing { c with stage := .sending m }
  | reject (text : String) (e : LineError) (stage : c.stage = .parsing text)
      (parsed : parseLine collectorName text.toList = .error e) :
      Moves c .rejects { c with stage := .ended (.parseError e) }
  | enter (m : Measurement) (stage : c.stage = .sending m) :
      Moves c (.enters m) { c with stage := .counting }
  | giveUp (m : Measurement) (stage : c.stage = .sending m) :
      Moves c .nothing { c with stage := .ended .queueClosed }
  | count (stage : c.stage = .counting) : Moves c .counts { c with stage := .reading }

lemma Connection.Moves.ended {c c' : Connection} {e : Effect} {r : EndReason}
    (hm : c.Moves e c') (hc : c.stage = .ended r) : e = .nothing ∧ c'.stage = .ended r := by
  cases hm with
  | arrive => exact ⟨rfl, hc⟩
  | close => exact ⟨rfl, hc⟩
  | _ => simp_all

/-- The connection at which something happens. -/
def Event.connection? : Event → Option Nat
  | arrive i _ | close i | fail i | expire i | work i => some i
  | accept | offer _ | consume | leave => none

namespace Listener

variable {l l' : Listener} {x : Event} {i : Nat}

/-! ### Moves of a listener -/

/-- A change of a listener with an event, whatever becomes of the queue. -/
inductive Moves (l : Listener) : Event → Listener → Prop where
  | shared (x : Event) (q : Queue Measurement) (others gone : List Measurement)
      (elsewhere : x.connection? = none) (old : x ≠ .accept)
      (items : l.queue.items ++ others = gone ++ q.items) :
      Moves l x
        { l with
          queue := q
          passed := l.passed ++ others.map (none, ·)
          left := l.left ++ gone }
  | accept :
      Moves l .accept
        { l with
          connections := l.connections ++ [.opened]
          stats := { l.stats with connections := l.stats.connections + 1 } }
  | connection (x : Event) (i : Nat) (c c' : Connection) (e : Effect) (q : Queue Measurement)
      (place : x.connection? = some i) (here : l.connections[i]? = some c) (move : c.Moves e c')
      (items : l.queue.items ++ e.entering = q.items) :
      Moves l x
        { stats := e.count l.stats
          queue := q
          passed := l.passed ++ e.entering.map (some i, ·)
          left := l.left
          connections := l.connections.set i c' }

lemma Moves.quiet {c c' : Connection} (place : x.connection? = some i)
    (here : l.connections[i]? = some c) (move : c.Moves .nothing c') : l.Moves x (l.set i c') := by
  have hm := Moves.connection x i c c' .nothing l.queue place here move (List.append_nil _)
  rwa [Effect.entering, List.map_nil, List.append_nil] at hm

lemma moves_read {c : Connection} (hc : l.connections[i]? = some c) (hs : c.stage = .reading)
    (h : l.read i c = some l') : l.Moves (.work i) l' := by
  unfold read at h
  split at h
  next line rest hn =>
    obtain rfl := Option.some.inj h
    cases ht : lineText? line with
    | some text => exact .quiet rfl hc (.line line rest text hs hn ht)
    | none => exact .quiet rfl hc (.garbled line rest hs hn ht)
  next hn =>
    split at h
    next ho =>
      obtain rfl := Option.some.inj h
      exact .quiet rfl hc (.finish hs hn ho)
    next => cases h

lemma moves_work (h : l.work i = some l') : l.Moves (.work i) l' := by
  unfold work at h
  obtain ⟨c, hc, h⟩ := Option.bind_eq_some_iff.mp h
  cases hs : c.stage with
  | reading =>
    rw [hs] at h
    exact moves_read hc hs h
  | parsing text =>
    rw [hs] at h
    dsimp only at h
    split at h
    next m hp =>
      obtain rfl := Option.some.inj h
      exact .quiet rfl hc (.parse text m hs hp)
    next e hp =>
      obtain rfl := Option.some.inj h
      have hm := Moves.connection (.work i) i c _ .rejects l.queue rfl hc (.reject text e hs hp)
        (List.append_nil _)
      rwa [Effect.entering, List.map_nil, List.append_nil] at hm
  | sending m =>
    rw [hs] at h
    dsimp only at h
    split at h
    next q hq =>
      obtain ⟨-, -, rfl⟩ := Queue.push_eq_accepted.mp hq
      obtain rfl := Option.some.inj h
      exact .connection (.work i) i c _ (.enters m) _ rfl hc (.enter m hs) rfl
    next =>
      obtain rfl := Option.some.inj h
      exact .quiet rfl hc (.giveUp m hs)
    next => cases h
  | counting =>
    rw [hs] at h
    obtain rfl := Option.some.inj h
    have hm := Moves.connection (.work i) i c _ .counts l.queue rfl hc (.count hs)
      (List.append_nil _)
    rwa [Effect.entering, List.map_nil, List.append_nil] at hm
  | ended r =>
    rw [hs] at h
    cases h

lemma moves_interrupt {r : EndReason} (place : x.connection? = some i)
    (hr : r = .readError ∨ r = .idleTimeout) (h : l.interrupt i r = some l') : l.Moves x l' := by
  unfold interrupt at h
  obtain ⟨c, hc, h⟩ := Option.bind_eq_some_iff.mp h
  split at h
  next hs =>
    obtain rfl := Option.some.inj h
    exact .quiet place hc (.interrupt r hs hr)
  next => cases h

lemma moves_step (h : l.step x = some l') : l.Moves x l' := by
  cases x with
  | accept =>
    obtain rfl := Option.some.inj h
    exact .accept
  | arrive i bytes =>
    obtain ⟨c, hc, h⟩ := Option.bind_eq_some_iff.mp h
    split at h
    next => cases h
    next ho =>
      obtain rfl := Option.some.inj h
      exact .quiet rfl hc (.arrive bytes (Bool.eq_false_iff.mpr ho))
  | close i =>
    obtain ⟨c, hc, h⟩ := Option.bind_eq_some_iff.mp h
    split at h
    next => cases h
    next ho =>
      obtain rfl := Option.some.inj h
      exact .quiet rfl hc (.close (Bool.eq_false_iff.mpr ho))
  | fail i => exact moves_interrupt rfl (Or.inl rfl) h
  | expire i => exact moves_interrupt rfl (Or.inr rfl) h
  | work i => exact moves_work h
  | offer m =>
    simp only [step] at h
    split at h
    next q hq =>
      obtain ⟨-, -, rfl⟩ := Queue.push_eq_accepted.mp hq
      obtain rfl := Option.some.inj h
      have hm := Moves.shared (l := l) (.offer m) { l.queue with items := l.queue.items ++ [m] }
        [m] [] rfl nofun rfl
      rwa [List.append_nil] at hm
    next => cases h
  | consume =>
    simp only [step] at h
    split at h
    next m q hq =>
      obtain ⟨rest, hitems, rfl⟩ := Queue.pop_eq_some.mp hq
      obtain rfl := Option.some.inj h
      have hm := Moves.shared (l := l) .consume { l.queue with items := rest } [] [m] rfl nofun
        (by rw [List.append_nil, hitems]; rfl)
      rwa [List.map_nil, List.append_nil] at hm
    next => cases h
  | leave =>
    obtain rfl := Option.some.inj h
    have hm := Moves.shared (l := l) .leave l.queue.close [] l.queue.items rfl nofun rfl
    rwa [List.map_nil, List.append_nil] at hm

/-! ### Through the queue -/

lemma entered_eq {others : List Measurement}
    (h : l'.passed = l.passed ++ others.map (none, ·)) : l'.entered = l.entered := by
  rw [entered, h, List.filterMap_append, List.filterMap_map]
  simp [entered]

lemma entered_append {ms : List Measurement} (h : l'.passed = l.passed ++ ms.map (some i, ·)) :
    l'.entered = l.entered ++ ms.map (i, ·) := by
  rw [entered, h, List.filterMap_append, List.filterMap_map]
  simp [entered]

/-- Whatever was there and has passed has left, or is still there. -/
def Conserves (queue : Queue Measurement) (l : Listener) : Prop :=
  queue.items ++ l.passed.map Prod.snd = l.left ++ l.queue.items

lemma Conserves.moves {queue : Queue Measurement} (h : l.Conserves queue) (hm : l.Moves x l') :
    l'.Conserves queue := by
  unfold Conserves at h ⊢
  cases hm with
  | shared x q others gone elsewhere old items =>
    have hothers : (others.map fun m => ((none : Option Nat), m)).map Prod.snd = others := by
      simp [Function.comp_def]
    rw [List.map_append, hothers, ← List.append_assoc, h, List.append_assoc, items,
      List.append_assoc]
  | accept => exact h
  | connection x i c c' e q place here move items =>
    have hentering : (e.entering.map (some i, ·)).map Prod.snd = e.entering := by
      simp [Function.comp_def]
    rw [List.map_append, hentering, ← List.append_assoc, h, List.append_assoc, items]

/-- What every move keeps holds after all events. -/
theorem run_keeps {P : Listener → Prop} (h : ∀ {l l' x}, P l → l.Moves x l' → P l') (hl : P l)
    (events : List Event) : P (l.run events) :=
  keeps_run (fun hl he => h hl (moves_step he)) hl events

lemma conserves_run (queue : Queue Measurement) (events : List Event) :
    ((start queue).run events).Conserves queue := by
  have hstart : (start queue).Conserves queue := List.append_nil queue.items
  exact run_keeps Conserves.moves hstart events

end Listener

end MetricAgent.Listen
