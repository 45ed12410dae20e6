import MetricAgent.Proofs.Listen.Progress

/-!
A stream has the same outcome however it is cut into pieces: whatever else happens at the listener,
the same measurements enter from its connection, it adds the same to the counts, and it ends for the
same reason.
-/

namespace MetricAgent.Listen

open Submission

lemma Effect.metrics_gain (s : Stats) (e : Effect) :
    ((e.count s).metrics - s.metrics).toNat = e.metrics := by
  rw [count_metrics, UInt64.add_comm, UInt64.add_sub_cancel]
  cases e <;> rfl

lemma Effect.parseErrors_gain (s : Stats) (e : Effect) :
    ((e.count s).parseErrors - s.parseErrors).toNat = e.errors := by
  rw [count_parseErrors, UInt64.add_comm, UInt64.add_sub_cancel]
  cases e <;> rfl

namespace Listener

variable {l l' : Listener} {x : Event} {i room : Nat} {c : Connection} {events : List Event}

/-! ### What a connection adds to the counts -/

/-- How much an event adds to a count if it happens at a connection. -/
def gain (count : Stats → UInt64) (i : Nat) (x : Event) (l l' : Listener) : Nat :=
  if x.connection? = some i then (count l'.stats - count l.stats).toNat else 0

/-- How much all events at a connection add to a count. -/
def added (count : Stats → UInt64) (i : Nat) (l : Listener) : List Event → Nat
  | [] => 0
  | x :: events =>
    let l' := (l.step x).getD l
    gain count i x l l' + added count i l' events

/-- Whether a connection is there and has a property, as a number. -/
def shows (l : Listener) (i : Nat) (p : Connection → Bool) : Nat :=
  (l.connections[i]?.any p).toNat

lemma shows_of_some {p : Connection → Bool} (hc : l.connections[i]? = some c) :
    l.shows i p = (p c).toNat := by
  rw [shows, hc]
  rfl

lemma gain_self (count : Stats → UInt64) (i : Nat) (x : Event) (l : Listener) :
    gain count i x l l = 0 := by
  simp [gain]

lemma Moves.gains (hm : l.Moves x l') (hf : l.Faithful) (i : Nat) :
    l'.shows i Connection.isCounting + gain Stats.metrics i x l l' + (l.enteredBy i).length =
        l.shows i Connection.isCounting + (l'.enteredBy i).length ∧
      l'.shows i Connection.isRejected =
        l.shows i Connection.isRejected + gain Stats.parseErrors i x l l' := by
  by_cases hx : x.connection? = some i
  · cases hm with
    | shared x q others gone elsewhere => simp [elsewhere] at hx
    | accept => cases hx
    | connection x j c c' e q place here move =>
      obtain rfl : j = i := Option.some.inj (place.symm.trans hx)
      have hset : (l.connections.set j c')[j]? = some c' :=
        List.getElem?_set_self (List.getElem?_eq_some_iff.mp here).1
      simp only [shows, hset, here, Option.any_some, gain, if_pos hx, Effect.metrics_gain,
        Effect.parseErrors_gain]
      have hcounting := move.counting
      refine ⟨?_, move.rejected⟩
      conv_rhs => rw [enteredBy_append (l := l) rfl, if_pos rfl, List.length_append]
      omega
  · obtain ⟨he, hsame⟩ := hm.elsewhere hf hx
    have hshows : ∀ p : Connection → Bool, p .opened = false → l'.shows i p = l.shows i p := by
      intro p hp
      rcases hsame with hsame | ⟨hnone, -, hnew⟩
      · rw [shows, hsame, shows]
      · rw [shows_of_some hnew, shows, hnone, hp]
        rfl
    rw [gain, gain, if_neg hx, if_neg hx, he, hshows _ rfl, hshows _ rfl]
    exact ⟨rfl, rfl⟩

/-- What has been added is what has entered and is not still to be counted. -/
lemma Faithful.added (hf : l.Faithful) (i : Nat) (events : List Event) :
    (l.run events).shows i Connection.isCounting + added Stats.metrics i l events +
        (l.enteredBy i).length =
        l.shows i Connection.isCounting + ((l.run events).enteredBy i).length ∧
      (l.run events).shows i Connection.isRejected =
        l.shows i Connection.isRejected + Listener.added Stats.parseErrors i l events := by
  -- from the first event on, since `added` takes the events in that order
  induction events generalizing l with
  | nil => exact ⟨rfl, rfl⟩
  | cons x events ih =>
    have hrun : l.run (x :: events) = ((l.step x).getD l).run events := rfl
    rw [hrun, Listener.added, Listener.added]
    cases hx : l.step x with
    | none =>
      obtain ⟨hm, he⟩ := ih hf
      simp only [Option.getD_none, gain_self]
      omega
    | some l' =>
      obtain ⟨hmetrics, herrors⟩ := (moves_step hx).gains hf i
      obtain ⟨hm, he⟩ := ih (hf.moves (moves_step hx))
      simp only [Option.getD_some]
      omega

/-! ### Any two ways to cut a stream -/

lemma run_append (l : Listener) (xs ys : List Event) : l.run (xs ++ ys) = (l.run xs).run ys :=
  List.foldl_append

/-- At a listener with some room in its queue the events bring a stream, or the beginning of one, to
a connection: its deadlines do not expire, it does not break, and the consumer stays. -/
structure Brings (room : Nat) (events : List Event) (i : Nat) (stream : Bytes) (c : Connection) :
    Prop where
  calm : ∀ x ∈ events, x ≠ .fail i ∧ x ≠ .expire i ∧ x ≠ .leave
  here : ((start (.ofCapacity room)).run events).connections[i]? = some c
  comes : ∃ more, c.received ++ more = stream ∧ Continues c.isOver more true

lemma run_arrive {received unread : Bytes} {stage : Stage} (pieces : List Bytes)
    (hc : l.connections[i]? = some ⟨received, unread, false, stage⟩) :
    (l.run (pieces.map (.arrive i))).connections[i]? =
      some ⟨received ++ pieces.flatten, unread ++ pieces.flatten, false, stage⟩ := by
  induction pieces generalizing l received unread with
  | nil => simpa [run] using hc
  | cons piece pieces ih =>
    let c : Connection := ⟨received ++ piece, unread ++ piece, false, stage⟩
    have hstep : l.step (.arrive i piece) = some (l.set i c) := by simp [step, hc, c]
    have hrun : l.run ((piece :: pieces).map (.arrive i)) =
        (l.set i c).run (pieces.map (.arrive i)) := by
      rw [List.map_cons, run, List.foldl_cons, hstep]
      rfl
    have hset : (l.set i c).connections[i]? = some c :=
      List.getElem?_set_self (List.getElem?_eq_some_iff.mp hc).1
    rw [hrun, ih hset, List.flatten_cons, List.append_assoc, List.append_assoc]

lemma brings_pieces (room : Nat) (pieces : List Bytes) :
    Brings room (.accept :: pieces.map (.arrive 0) ++ [.close 0]) 0 pieces.flatten
      ⟨pieces.flatten, pieces.flatten, true, .reading⟩ := by
  refine ⟨fun x hx => ?_, ?_, [], List.append_nil _, fun _ => ⟨rfl, rfl⟩⟩
  · have hx : x = .accept ∨ (∃ piece ∈ pieces, .arrive 0 piece = x) ∨ x = .close 0 := by
      simpa [or_assoc] using hx
    rcases hx with rfl | ⟨piece, -, rfl⟩ | rfl <;> simp
  · have hopened : ((start (.ofCapacity room)).run [.accept]).connections[0]? =
        some .opened := rfl
    have harrived := run_arrive pieces hopened
    rw [← run_append, List.singleton_append] at harrived
    have hclose := List.getElem?_eq_some_iff.mp harrived
    rw [run_append, run, List.foldl_cons, List.foldl_nil, step, harrived]
    exact List.getElem?_set_self hclose.1

/-- When the connection has ended, the lines of the whole stream have settled how. -/
lemma Brings.ended {stream : Bytes} {r : EndReason} (h : Brings room events i stream c)
    (hr : c.stage = .ended r) :
    outcome (Listen.lines true stream) =
        ⟨((start (.ofCapacity room)).run events).enteredBy i, r⟩ ∧
      added Stats.metrics i (start (.ofCapacity room)) events =
        (((start (.ofCapacity room)).run events).enteredBy i).length ∧
      added Stats.parseErrors i (start (.ofCapacity room)) events = c.isRejected.toNat := by
  obtain ⟨more, rfl, hm⟩ := h.comes
  obtain ⟨hmetrics, herrors⟩ := (faithful_start (.ofCapacity room)).added i events
  rw [shows_of_some h.here] at hmetrics herrors
  have hcounting : c.isCounting = false := by simp [Connection.isCounting, hr]
  have hstart : ∀ p, (start (.ofCapacity room)).shows i p = 0 := fun _ => rfl
  have hnone : (start (.ofCapacity room)).enteredBy i = [] := rfl
  rw [hcounting, hstart, hnone] at hmetrics
  rw [hstart] at herrors
  refine ⟨?_, by simpa using hmetrics, by simpa using herrors.symm⟩
  rw [(undisturbed_run h.calm).settled c h.here more hm]
  simp [Connection.remaining, hr, Outcome.after]

/--
**However a stream is cut.** Two connections, perhaps at different listeners, get the same stream in
whatever pieces, among whatever else happens, until they end. Then the same measurements have
entered from both, both have added the same to the counts, and both have ended for the same reason:
the stream was over, or it went on with what is no text, or a line was refused. All of it is settled
by the lines of the stream. A connection whose stream is over does end, if its task and the consumer
go on; and any pieces will do.
-/
theorem same_outcome_however_cut {room₁ room₂ : Nat} {events₁ events₂ : List Event} {i₁ i₂ : Nat}
    {stream : Bytes} {c₁ c₂ : Connection} (h₁ : Brings room₁ events₁ i₁ stream c₁)
    (h₂ : Brings room₂ events₂ i₂ stream c₂) :
    let l₁ := start (.ofCapacity room₁)
    let l₂ := start (.ofCapacity room₂)
    (∀ r₁ r₂, c₁.endReason? = some r₁ → c₂.endReason? = some r₂ →
        outcome (Listen.lines true stream) = ⟨(l₁.run events₁).enteredBy i₁, r₁⟩ ∧
        added Stats.metrics i₁ l₁ events₁ = ((l₁.run events₁).enteredBy i₁).length ∧
        (l₁.run events₁).enteredBy i₁ = (l₂.run events₂).enteredBy i₂ ∧
        added Stats.metrics i₁ l₁ events₁ = added Stats.metrics i₂ l₂ events₂ ∧
        added Stats.parseErrors i₁ l₁ events₁ = added Stats.parseErrors i₂ l₂ events₂ ∧
        r₁ = r₂ ∧ (r₁ = .endOfStream ∨ r₁ = .readError ∨ ∃ e, r₁ = .parseError e)) ∧
      (c₁.isOver = true → 1 ≤ room₁ →
        ∃ c r, Brings room₁ (events₁ ++ rounds i₁ (stepsFor c₁.unread)) i₁ stream c ∧
          c.endReason? = some r) ∧
      ∀ pieces : List Bytes, pieces.flatten = stream →
        Brings room₁ (.accept :: pieces.map (.arrive 0) ++ [.close 0]) 0 stream
          ⟨stream, stream, true, .reading⟩ := by
  intro l₁ l₂
  refine ⟨fun r₁ r₂ hr₁ hr₂ => ?_, fun ho hroom => ?_, ?_⟩
  · have hs₁ := Connection.stage_of_endReason hr₁
    have hs₂ := Connection.stage_of_endReason hr₂
    obtain ⟨ho₁, hm₁, he₁⟩ := h₁.ended hs₁
    obtain ⟨ho₂, hm₂, he₂⟩ := h₂.ended hs₂
    obtain ⟨hentered, rfl⟩ := Outcome.mk.inj (ho₁.symm.trans ho₂)
    refine ⟨ho₁, hm₁, hentered, ?_, ?_, rfl, ?_⟩
    · rw [hm₁, hm₂, hentered]
    · rw [he₁, he₂, Connection.isRejected, Connection.isRejected, hs₁, hs₂]
    · have hreason := outcome_reason (Listen.lines true stream)
      rwa [ho₁] at hreason
  · obtain ⟨more, hstream, hm⟩ := h₁.comes
    obtain ⟨rfl, -⟩ := hm ho
    have hserved : (l₁.run events₁).IsServed room₁ := (undisturbed_run h₁.calm).queue
    obtain ⟨c, r, hc, hreceived, hover, hr⟩ :=
      hserved.rounds hroom h₁.here ho c₁.stepsLeft_le
    refine ⟨c, r, ⟨fun x hx => ?_, by rwa [run_append], [], ?_, fun _ => ⟨rfl, rfl⟩⟩, hr⟩
    · rcases List.mem_append.mp hx with hx | hx
      · exact h₁.calm x hx
      · rcases of_mem_rounds hx with rfl | rfl <;> simp
    · rw [hreceived, hstream]
  · rintro pieces rfl
    exact brings_pieces room₁ pieces

/-- A stream of two lines: the first one ends with a carriage return and a line feed, the second one
has no end, and a character of two bytes for which it is refused. -/
def twoLines : Bytes := "0 a 1\r\n0 ü 2".toUTF8.toList

/-- The stream comes at once. -/
def atOnce : List Event := [.accept, .arrive 0 twoLines, .close 0] ++ List.replicate 6 (.work 0)

/-- The stream comes in three pieces, cut in front of the line feed and in the character, with
another client in between. -/
def inPieces : List Event :=
  [.accept, .accept, .arrive 1 (twoLines.take 6), .work 1, .arrive 0 [0x62],
    .arrive 1 ((twoLines.drop 6).take 4), .work 1, .work 1, .arrive 1 (twoLines.drop 10),
    .close 1] ++ List.replicate 4 (.work 1)

/-- One measurement enters either way, and one line is refused. -/
theorem same_outcome_however_cut_twoLines :
    let refused := EndReason.parseError (.metricName "ü")
    ∃ c₁ c₂, Brings 2 atOnce 0 twoLines c₁ ∧ Brings 2 inPieces 1 twoLines c₂ ∧
      c₁.endReason? = some refused ∧ c₂.endReason? = some refused ∧
      ((start (.ofCapacity 2)).run atOnce).enteredBy 0 =
        ((start (.ofCapacity 2)).run inPieces).enteredBy 1 ∧
      added Stats.metrics 0 (start (.ofCapacity 2)) atOnce =
        added Stats.metrics 1 (start (.ofCapacity 2)) inPieces ∧
      added Stats.parseErrors 0 (start (.ofCapacity 2)) atOnce =
        added Stats.parseErrors 1 (start (.ofCapacity 2)) inPieces ∧
      c₁.isOver = true ∧ 1 ≤ 2 ∧
      ∃ c r, Brings 2 (atOnce ++ rounds 0 (stepsFor c₁.unread)) 0 twoLines c ∧
        c.endReason? = some r := by
  intro refused
  have hbrings : ∀ {events : List Event} {i : Nat},
      ((start (.ofCapacity 2)).run events).connections[i]?.map
          (fun c => (c.received, c.isOver, c.endReason?)) = some (twoLines, true, some refused) →
      (∀ x ∈ events, x ≠ .fail i ∧ x ≠ .expire i ∧ x ≠ .leave) →
      ∃ c, Brings 2 events i twoLines c ∧ c.isOver = true ∧ c.endReason? = some refused := by
    intro events i hc hcalm
    obtain ⟨c, here, hc⟩ := Option.map_eq_some_iff.mp hc
    obtain ⟨hreceived, hc⟩ := Prod.mk.inj hc
    refine ⟨c, ⟨hcalm, here, [], ?_, fun _ => ⟨rfl, rfl⟩⟩, Prod.mk.inj hc⟩
    rw [hreceived, List.append_nil]
  obtain ⟨c₁, h₁, ho₁, hr₁⟩ :
      ∃ c, Brings 2 atOnce 0 twoLines c ∧ c.isOver = true ∧ c.endReason? = some refused :=
    hbrings (by decide +kernel) (by decide +kernel)
  obtain ⟨c₂, h₂, -, hr₂⟩ :
      ∃ c, Brings 2 inPieces 1 twoLines c ∧ c.isOver = true ∧ c.endReason? = some refused :=
    hbrings (by decide +kernel) (by decide +kernel)
  obtain ⟨hsame, hends, -⟩ := same_outcome_however_cut h₁ h₂
  obtain ⟨-, -, hentered, hmetrics, herrors, -⟩ := hsame _ _ hr₁ hr₂
  have hroom : 1 ≤ 2 := by decide
  exact ⟨c₁, c₂, h₁, h₂, hr₁, hr₂, hentered, hmetrics, herrors, ho₁, hroom, hends ho₁ hroom⟩

end Listener

end MetricAgent.Listen
