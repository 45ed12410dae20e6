import MetricAgent.Proofs.Listen.Reading
import MetricAgent.Proofs.Listen.Statistics

/-!
What enters the queue from the connections of a listener: from each the measurements of its first
lines, in order and without gaps, whatever happens at the others and to the queue.
-/

namespace MetricAgent.Listen

open Submission

namespace Listener

variable {l l' : Listener} {x : Event} {i : Nat}

/-! ### All connections -/

/-- What has entered the queue from a connection, in order. -/
def enteredBy (l : Listener) (i : Nat) : List Measurement :=
  (l.entered.filter (·.1 = i)).map Prod.snd

/-- What has entered came from connections, and from each its first lines. -/
structure Faithful (l : Listener) : Prop where
  follows : ∀ i (c : Connection), l.connections[i]? = some c →
    ∃ ls held, c.Follows (l.enteredBy i) ls held
  known : ∀ y ∈ l.entered, y.1 < l.connections.length

lemma faithful_start (queue : Queue Measurement) : (start queue).Faithful :=
  ⟨fun i c hc => by simp [start] at hc, fun y hy => by cases hy⟩

lemma enteredBy_eq {others : List Measurement} (h : l'.passed = l.passed ++ others.map (none, ·))
    (j : Nat) : l'.enteredBy j = l.enteredBy j := by
  rw [enteredBy, entered_eq h, enteredBy]

lemma Faithful.enteredBy_length (h : l.Faithful) : l.enteredBy l.connections.length = [] := by
  have hnone : l.entered.filter (·.1 = l.connections.length) = [] := by
    refine List.filter_eq_nil_iff.mpr fun y hy => ?_
    have := h.known y hy
    simp only [decide_eq_true_eq]
    omega
  rw [enteredBy, hnone]
  rfl

/-- A move of one connection adds to what entered from it only. -/
lemma enteredBy_append {ms : List Measurement} (h : l'.passed = l.passed ++ ms.map (some i, ·))
    (j : Nat) : l'.enteredBy j = l.enteredBy j ++ if i = j then ms else [] := by
  rw [enteredBy, entered_append h, List.filter_append, List.map_append]
  congr 1
  split
  next h => simp [h, List.filter_map, Function.comp_def]
  next h => simp [h, List.filter_map, Function.comp_def]

lemma Faithful.accept (h : l.Faithful) (stats : Stats) :
    Faithful { l with stats := stats, connections := l.connections ++ [.opened] } := by
  refine ⟨fun i c hc => ?_, fun y hy => ?_⟩
  · rw [List.getElem?_append] at hc
    split at hc
    next => exact h.follows i c hc
    next hi =>
      obtain ⟨h0, rfl⟩ := List.getElem?_eq_some_iff.mp hc
      have hlen : i = l.connections.length := by
        rw [List.length_singleton] at h0
        omega
      have hnone : l.enteredBy i = [] := by rw [hlen, h.enteredBy_length]
      refine ⟨[], [], ?_⟩
      change Connection.Follows _ (l.enteredBy i) [] []
      rw [hnone]
      simpa using Connection.follows_opened
  · have := h.known y hy
    rw [List.length_append]
    omega

lemma Faithful.moves (h : l.Faithful) (hm : l.Moves x l') : l'.Faithful := by
  cases hm with
  | shared =>
    refine ⟨fun j d hd => ?_, fun y hy => ?_⟩
    · rw [enteredBy_eq (l := l) rfl]
      exact h.follows j d hd
    · rw [entered_eq (l := l) rfl] at hy
      exact h.known y hy
  | accept => exact h.accept _
  | connection x i c c' e q place here move =>
    refine ⟨fun j d hd => ?_, fun y hy => ?_⟩
    · rw [enteredBy_append (l := l) rfl]
      rcases eq_or_ne i j with rfl | hij
      · rw [if_pos rfl]
        rw [List.getElem?_set_self (List.getElem?_eq_some_iff.mp here).1] at hd
        obtain rfl := Option.some.inj hd
        obtain ⟨ls, held, hf⟩ := h.follows i c here
        exact hf.moves move
      · rw [if_neg hij, List.append_nil]
        rw [List.getElem?_set_ne hij] at hd
        exact h.follows j d hd
    · rw [List.length_set]
      rw [entered_append (l := l) rfl] at hy
      rcases List.mem_append.mp hy with hy | hy
      · exact h.known y hy
      · obtain ⟨m, -, rfl⟩ := List.mem_map.mp hy
        exact (List.getElem?_eq_some_iff.mp here).1

lemma faithful_run (queue : Queue Measurement) (events : List Event) :
    ((start queue).run events).Faithful :=
  run_keeps Faithful.moves (faithful_start queue) events

/-! ### Connections that have ended -/

/-- A connection has ended, after some measurements. -/
def HasEnded (l : Listener) (i : Nat) (r : EndReason) (ms : List Measurement) : Prop :=
  ∃ c, l.connections[i]? = some c ∧ c.stage = .ended r ∧ l.enteredBy i = ms

lemma HasEnded.moves {r : EndReason} {ms : List Measurement} (h : l.HasEnded i r ms)
    (hm : l.Moves x l') : l'.HasEnded i r ms := by
  obtain ⟨c, hc, hr, he⟩ := h
  have hi := (List.getElem?_eq_some_iff.mp hc).1
  cases hm with
  | shared => exact ⟨c, hc, hr, (enteredBy_eq (l := l) rfl i).trans he⟩
  | accept =>
    refine ⟨c, ?_, hr, he⟩
    rw [List.getElem?_append_left hi]
    exact hc
  | connection x j d d' e q place here move =>
    rcases eq_or_ne j i with rfl | hij
    · rw [hc] at here
      obtain rfl := Option.some.inj here
      obtain ⟨rfl, hr'⟩ := move.ended hr
      refine ⟨d', List.getElem?_set_self hi, hr', ?_⟩
      rw [enteredBy_append (l := l) rfl, if_pos rfl, Effect.entering, List.append_nil]
      exact he
    · refine ⟨c, ?_, hr, ?_⟩
      · rw [List.getElem?_set_ne hij]
        exact hc
      · rw [enteredBy_append (l := l) rfl, if_neg hij, List.append_nil]
        exact he

/-- Nothing more enters from a connection that has ended. -/
theorem HasEnded.enteredBy_run {r : EndReason} {ms : List Measurement} (h : l.HasEnded i r ms)
    (later : List Event) : (l.run later).enteredBy i = ms := by
  obtain ⟨c, -, -, he⟩ := run_keeps HasEnded.moves h later
  exact he

lemma hasEnded_of_expire (h : l.step (.expire i) = some l') :
    l'.HasEnded i .idleTimeout (l.enteredBy i) := by
  obtain ⟨c, hc, h⟩ := Option.bind_eq_some_iff.mp h
  split at h
  next =>
    obtain rfl := Option.some.inj h
    have hi := (List.getElem?_eq_some_iff.mp hc).1
    exact ⟨{ c with stage := .ended .idleTimeout }, List.getElem?_set_self hi, rfl, rfl⟩
  next => cases h

/-! ### What is put into the queue -/

/--
**The first lines enter.** At any time the measurements that entered the queue from a connection are
those of its first lines, in order. None is of a line that is refused or is no text, nor of a line
behind one, and none enters after the deadline has passed. What was in the queue and what entered it,
from connections and from others, has left it in that order or is still there. The counts are those
of the connections, and a measurement that entered is counted unless its task is just about to count
it.
-/
theorem first_lines_enter (queue : Queue Measurement) (events : List Event) :
    let l := (start queue).run events
    (∀ i (c : Connection), l.connections[i]? = some c →
        (c.lines.take (l.enteredBy i).length).map submission? = (l.enteredBy i).map some ∧
        (∀ j line, c.lines[j]? = some line → submission? line = none →
          (l.enteredBy i).length ≤ j) ∧
        (∀ e, c.stage = .ended (.parseError e) → ∃ line text,
          c.lines[(l.enteredBy i).length]? = some line ∧ lineText? line = some text ∧
            parseLine collectorName text.toList = .error e) ∧
        (c.stage = .ended .endOfStream →
          c.isOver = true ∧ c.lines.map submission? = (l.enteredBy i).map some) ∧
        ∀ r, c.stage = .ended r → ∀ later, (l.run later).enteredBy i = l.enteredBy i) ∧
      (∀ y ∈ l.entered, y.1 < l.connections.length) ∧
      queue.items ++ l.passed.map Prod.snd = l.left ++ l.queue.items ∧
      (∀ i l', l.step (.expire i) = some l' →
        ∀ later, (l'.run later).enteredBy i = l.enteredBy i) ∧
      (events.length < UInt64.size →
        l.connections.length = events.count .accept ∧
        l.stats.connections.toNat = l.connections.length ∧
        l.stats.parseErrors.toNat = l.connections.countP Connection.isRejected ∧
        l.stats.parseErrors.toNat ≤ l.stats.connections.toNat ∧
        l.entered.length =
          l.stats.metrics.toNat + l.connections.countP Connection.isCounting ∧
        ((∀ c ∈ l.connections, c.stage ≠ .counting) →
          l.stats.metrics.toNat = l.entered.length)) := by
  intro l
  have h : l.Faithful := faithful_run queue events
  refine ⟨fun i c hc => ?_, h.known, conserves_run queue events, fun i l' hl later => ?_,
    fun hlt => ?_⟩
  · obtain ⟨ls, held, hf⟩ := h.follows i c hc
    refine ⟨hf.submissions, fun _ _ => hf.length_le, fun _ => hf.rejected, hf.finished,
      fun r hr later => ?_⟩
    have hended : l.HasEnded i r (l.enteredBy i) := ⟨c, hc, hr, rfl⟩
    exact hended.enteredBy_run later
  · exact (hasEnded_of_expire hl).enteredBy_run later
  · obtain ⟨haccepted, hconn, herr, hmetrics⟩ := stats_run queue hlt
    refine ⟨haccepted, hconn, herr, ?_, ?_, fun hidle => ?_⟩
    · rw [herr, hconn]
      exact List.countP_le_length
    · rw [← hmetrics]
    · have hzero : l.connections.countP Connection.isCounting = 0 := by
        refine List.countP_eq_zero.mpr fun c hc => ?_
        simpa [Connection.isCounting] using hidle c hc
      rw [← hmetrics, hzero, Nat.add_zero]

/-- Three clients: the second line of the first one is refused, the second one closes its side
behind an unfinished line, and the third one sends nothing. -/
def threeClients : List Event :=
  [.accept, .accept, .accept, .arrive 0 "0 a 1\nbad\n0 c 3\n".toUTF8.toList,
    .arrive 1 "0 b 2".toUTF8.toList, .close 1] ++
    List.replicate 6 (.work 0) ++ List.replicate 5 (.work 1)

/-- One line of the first client has entered, all of the second, and the third may still be late. -/
theorem first_lines_enter_threeClients :
    let l := (start (.ofCapacity 2)).run threeClients
    (∃ c, l.connections[0]? = some c ∧ c.lines[1]? = some "bad".toUTF8.toList ∧
        submission? "bad".toUTF8.toList = none ∧ (l.enteredBy 0).length ≤ 1 ∧
        c.stage = .ended (.parseError (.fieldCount 1)) ∧
        ∃ line text, c.lines[(l.enteredBy 0).length]? = some line ∧ lineText? line = some text ∧
          parseLine collectorName text.toList = .error (.fieldCount 1)) ∧
      (∃ c, l.connections[1]? = some c ∧ c.stage = .ended .endOfStream ∧
        c.lines.map submission? = (l.enteredBy 1).map some) ∧
      (∃ l', l.step (.expire 2) = some l' ∧
        ∀ later, (l'.run later).enteredBy 2 = l.enteredBy 2) ∧
      threeClients.length < UInt64.size ∧ l.stats.metrics.toNat = l.entered.length := by
  intro l
  obtain ⟨heach, -, -, hexpire, hstats⟩ := first_lines_enter (.ofCapacity 2) threeClients
  refine ⟨?_, ?_, ?_, ?_⟩
  · obtain ⟨c, hc, hlines⟩ : ∃ c, l.connections[0]? = some c ∧
        (c.lines[1]?, c.stage) =
          (some "bad".toUTF8.toList, .ended (.parseError (.fieldCount 1))) :=
      Option.map_eq_some_iff.mp (by decide +kernel)
    obtain ⟨hline, hstage⟩ := Prod.mk.inj hlines
    have hnone : submission? "bad".toUTF8.toList = none := by decide +kernel
    obtain ⟨-, hbefore, hrejected, -, -⟩ := heach 0 c hc
    exact ⟨c, hc, hline, hnone, hbefore 1 _ hline hnone, hstage, hrejected _ hstage⟩
  · obtain ⟨c, hc, hstage⟩ : ∃ c, l.connections[1]? = some c ∧ c.stage = .ended .endOfStream :=
      Option.map_eq_some_iff.mp (by decide +kernel)
    obtain ⟨-, -, -, hfinished, -⟩ := heach 1 c hc
    exact ⟨c, hc, hstage, (hfinished hstage).2⟩
  · obtain ⟨l', hl⟩ : ∃ l', l.step (.expire 2) = some l' :=
      Option.isSome_iff_exists.mp (by decide +kernel)
    exact ⟨l', hl, hexpire 2 l' hl⟩
  · have hlt : threeClients.length < UInt64.size := by decide
    obtain ⟨-, -, -, -, -, hexact⟩ := hstats hlt
    have hidle : ∀ c ∈ l.connections, c.stage ≠ .counting := by decide +kernel
    exact ⟨hlt, hexact hidle⟩

end Listener

end MetricAgent.Listen
