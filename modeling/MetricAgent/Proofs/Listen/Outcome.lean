import MetricAgent.Proofs.Listen.Ingestion

/-!
What becomes of a stream at a connection that nothing disturbs: which measurements enter, and why
the connection ends. The lines of the stream settle both, and at any time what has entered and what
the bytes that are still to come bring make up the whole of it.
-/

namespace MetricAgent.Listen

open Submission

/-! ### The outcome of some lines -/

/-- What enters the queue from a connection, and why it ends. -/
structure Outcome where
  entering : List Measurement
  reason : EndReason

namespace Outcome

/-- An outcome with some measurements in front. -/
def after (ms : List Measurement) (o : Outcome) : Outcome := ⟨ms ++ o.entering, o.reason⟩

/-- What a text brings in front of an outcome. -/
def afterText (text : String) (o : Outcome) : Outcome :=
  match parseLine collectorName text.toList with
  | .ok m => o.after [m]
  | .error e => ⟨[], .parseError e⟩

lemma after_append (ms ms' : List Measurement) (o : Outcome) :
    o.after (ms ++ ms') = (o.after ms').after ms := by
  rw [after, List.append_assoc]
  rfl

end Outcome

/-- What some lines bring when all of them are there. -/
def outcome : List Bytes → Outcome
  | [] => ⟨[], .endOfStream⟩
  | line :: lines =>
    match lineText? line with
    | some text => (outcome lines).afterText text
    | none => ⟨[], .readError⟩

lemma outcome_reason (ls : List Bytes) :
    (outcome ls).reason = .endOfStream ∨ (outcome ls).reason = .readError ∨
      ∃ e, (outcome ls).reason = .parseError e := by
  induction ls with
  | nil => exact Or.inl rfl
  | cons line ls ih =>
    rw [outcome]
    split
    next text _ =>
      unfold Outcome.afterText
      split
      next => exact ih
      next e _ => exact Or.inr (Or.inr ⟨e, rfl⟩)
    next => exact Or.inr (Or.inl rfl)

namespace Connection

variable {c c' : Connection} {e : Effect} {more : Bytes}

/-! ### The next move of a task -/

/-- The next move of a task while the queue takes what is put in. -/
def next? (c : Connection) : Option (Connection × Effect) :=
  match c.stage with
  | .reading =>
    match nextLine? c.isOver c.unread with
    | some (line, rest) =>
      let stage := (lineText? line).elim (Stage.ended .readError) .parsing
      some ({ c with unread := rest, stage := stage }, .nothing)
    | none => if c.isOver then some ({ c with stage := .ended .endOfStream }, .nothing) else none
  | .parsing text =>
    match parseLine collectorName text.toList with
    | .ok m => some ({ c with stage := .sending m }, .nothing)
    | .error e => some ({ c with stage := .ended (.parseError e) }, .rejects)
  | .sending m => some ({ c with stage := .counting }, .enters m)
  | .counting => some ({ c with stage := .reading }, .counts)
  | .ended _ => none

/-- What is still to enter if more bytes come before the stream is over, and why the connection
ends then. -/
def remaining (c : Connection) (more : Bytes) : Outcome :=
  let others := outcome (Listen.lines true (c.unread ++ more))
  match c.stage with
  | .reading | .counting => others
  | .parsing text => others.afterText text
  | .sending m => others.after [m]
  | .ended r => ⟨[], r⟩

lemma next_keeps (h : c.next? = some (c', e)) :
    c'.received = c.received ∧ c'.isOver = c.isOver := by
  unfold next? at h
  repeat' split at h
  all_goals
    cases h
    try exact ⟨rfl, rfl⟩

/-- With each move of the task what remains is less by what has entered. -/
lemma remaining_next (h : c.next? = some (c', e)) (hm : Continues c.isOver more true) :
    c.remaining more = (c'.remaining more).after e.entering := by
  unfold next? at h
  cases hs : c.stage with
  | reading =>
    simp only [hs] at h
    split at h
    next line rest hn =>
      obtain ⟨rfl, rfl⟩ := Prod.mk.inj (Option.some.inj h)
      simp only [remaining, hs, lines_of_nextLine hn hm, outcome]
      cases lineText? line <;> rfl
    next hn =>
      split at h
      next ho =>
        obtain ⟨rfl, rfl⟩ := Prod.mk.inj (Option.some.inj h)
        obtain ⟨rfl, -⟩ := hm ho
        rw [ho] at hn
        simp only [remaining, hs, List.append_nil, lines_of_nextLine_none hn]
        rfl
      next => cases h
  | parsing text =>
    simp only [hs] at h
    split at h
    next m hp =>
      obtain ⟨rfl, rfl⟩ := Prod.mk.inj (Option.some.inj h)
      simp only [remaining, hs, Outcome.afterText, hp]
      rfl
    next err hp =>
      obtain ⟨rfl, rfl⟩ := Prod.mk.inj (Option.some.inj h)
      simp only [remaining, hs, Outcome.afterText, hp]
      rfl
  | sending m =>
    simp only [hs] at h
    obtain ⟨rfl, rfl⟩ := Prod.mk.inj (Option.some.inj h)
    simp only [remaining, hs]
    rfl
  | counting =>
    simp only [hs] at h
    obtain ⟨rfl, rfl⟩ := Prod.mk.inj (Option.some.inj h)
    simp only [remaining, hs]
    rfl
  | ended r =>
    simp only [hs] at h
    cases h

end Connection

namespace Listener

variable {l l' : Listener} {x : Event} {i room : Nat} {c c' : Connection} {e : Effect}

/-- The listener after a move of a connection, if the queue takes what is put in. -/
def takes (l : Listener) (i : Nat) (c : Connection) (e : Effect) : Listener :=
  { stats := e.count l.stats
    queue := { l.queue with items := l.queue.items ++ e.entering }
    passed := l.passed ++ e.entering.map (some i, ·)
    left := l.left
    connections := l.connections.set i c }

/-- The listener after such a move, unless a measurement has to wait for room. -/
def advance (l : Listener) (i : Nat) (c : Connection) (e : Effect) : Option Listener :=
  if e.entering = [] ∨ l.queue.hasRoom = true then some (l.takes i c e) else none

lemma advance_of_entering_nil (l : Listener) (i : Nat) (c : Connection) (e : Effect)
    (he : e.entering = []) : l.advance i c e =
      some { l with stats := e.count l.stats, connections := l.connections.set i c } := by
  rw [advance, if_pos (Or.inl he), takes, he, List.map_nil, List.append_nil, List.append_nil]

lemma work_of_open (hc : l.connections[i]? = some c) (ho : l.queue.isOpen = true) :
    l.work i = c.next?.bind fun y => l.advance i y.1 y.2 := by
  unfold work Connection.next?
  rw [hc]
  dsimp only [Option.bind_eq_bind, Option.bind_some]
  cases hs : c.stage with
  | reading =>
    unfold read
    cases hn : nextLine? c.isOver c.unread with
    | some y => exact (l.advance_of_entering_nil i _ .nothing rfl).symm
    | none =>
      cases c.isOver with
      | true => exact (l.advance_of_entering_nil i _ .nothing rfl).symm
      | false => rfl
  | parsing text =>
    dsimp only
    cases hp : parseLine collectorName text.toList with
    | ok m => exact (l.advance_of_entering_nil i _ .nothing rfl).symm
    | error err => exact (l.advance_of_entering_nil i _ .rejects rfl).symm
  | sending m =>
    dsimp only [Option.bind_some, advance]
    cases hr : l.queue.hasRoom with
    | true =>
      rw [Queue.push_of_room m ho hr, if_pos (Or.inr rfl)]
      rfl
    | false => rw [Queue.push_of_full m ho hr, if_neg (by simp [Effect.entering])]
  | counting => exact (l.advance_of_entering_nil i _ .counts rfl).symm
  | ended r => rfl

lemma work_eq_some_of_open (hc : l.connections[i]? = some c) (ho : l.queue.isOpen = true)
    (h : l.work i = some l') :
    ∃ c' e, c.next? = some (c', e) ∧ (e.entering = [] ∨ l.queue.hasRoom = true) ∧
      l' = l.takes i c' e := by
  rw [work_of_open hc ho] at h
  obtain ⟨⟨c', e⟩, hn, h⟩ := Option.bind_eq_some_iff.mp h
  dsimp only [advance] at h
  split at h
  next hr => exact ⟨c', e, hn, hr, (Option.some.inj h).symm⟩
  next => cases h

lemma enteredBy_takes (l : Listener) (i : Nat) (c : Connection) (e : Effect) :
    (l.takes i c e).enteredBy i = l.enteredBy i ++ e.entering := by
  rw [enteredBy_append (l := l) (i := i) rfl, if_pos rfl]

/-! ### A queue that is served -/

/-- The consumer is there, and the queue holds no more than it has room for. -/
structure IsServed (l : Listener) (room : Nat) : Prop where
  isOpen : l.queue.isOpen = true
  capacity : l.queue.capacity = room
  length_le : l.queue.length ≤ room

/-- What has entered if there was room leaves the queue served. -/
lemma IsServed.of_items (h : l.IsServed room) (e : Effect)
    (hr : e.entering = [] ∨ l.queue.hasRoom = true)
    (hq : l'.queue = { l.queue with items := l.queue.items ++ e.entering }) :
    l'.IsServed room := by
  refine ⟨hq ▸ h.isOpen, hq ▸ h.capacity, ?_⟩
  have hle := h.length_le
  rw [hq, Queue.length, List.length_append]
  rcases hr with he | hr
  · rw [he]
    exact hle
  · have hlt := of_decide_eq_true hr
    rw [h.capacity] at hlt
    have hone : e.entering.length ≤ 1 := by cases e <;> simp [Effect.entering]
    unfold Queue.length at hlt
    omega

lemma IsServed.step (h : l.IsServed room) (hx : x ≠ .leave) (hs : l.step x = some l') :
    l'.IsServed room := by
  have hkept : ∀ {l'' : Listener}, l''.queue = l.queue → l''.IsServed room := fun hq =>
    ⟨hq ▸ h.isOpen, hq ▸ h.capacity, hq ▸ h.length_le⟩
  have hpeer : ∀ {j} {f : Connection → Connection},
      (l.connections[j]?.bind fun c => if c.isOver then none else some (l.set j (f c))) = some l' →
        l'.IsServed room := by
    intro j f hs
    obtain ⟨c, -, hs⟩ := Option.bind_eq_some_iff.mp hs
    split at hs
    next => cases hs
    next =>
      obtain rfl := Option.some.inj hs
      exact hkept rfl
  have hinterrupt : ∀ {j r}, l.interrupt j r = some l' → l'.IsServed room := by
    intro j r hs
    obtain ⟨c, -, hs⟩ := Option.bind_eq_some_iff.mp hs
    split at hs
    next =>
      obtain rfl := Option.some.inj hs
      exact hkept rfl
    next => cases hs
  cases x with
  | accept =>
    obtain rfl := Option.some.inj hs
    exact hkept rfl
  | arrive j bytes => exact hpeer hs
  | close j => exact hpeer hs
  | fail j => exact hinterrupt hs
  | expire j => exact hinterrupt hs
  | work j =>
    obtain ⟨c, hc, -⟩ := Option.bind_eq_some_iff.mp hs
    obtain ⟨c', e, -, hr, rfl⟩ := work_eq_some_of_open hc h.isOpen hs
    exact h.of_items e hr rfl
  | offer m =>
    simp only [Listener.step] at hs
    split at hs
    next q hq =>
      obtain rfl := Option.some.inj hs
      obtain ⟨-, hr, rfl⟩ := Queue.push_eq_accepted.mp hq
      exact h.of_items (.enters m) (Or.inr hr) rfl
    next => cases hs
  | consume =>
    simp only [Listener.step] at hs
    split at hs
    next m q hq =>
      obtain rfl := Option.some.inj hs
      obtain ⟨rest, hitems, rfl⟩ := Queue.pop_eq_some.mp hq
      refine ⟨h.isOpen, h.capacity, ?_⟩
      have hle := h.length_le
      rw [Queue.length, hitems, List.length_cons] at hle
      exact Nat.le_of_succ_le hle
    next => cases hs
  | leave => exact absurd rfl hx

/-! ### A connection that nothing disturbs -/

lemma Moves.elsewhere (hm : l.Moves x l') (hf : l.Faithful) (hx : x.connection? ≠ some i) :
    l'.enteredBy i = l.enteredBy i ∧
      (l'.connections[i]? = l.connections[i]? ∨
        l.connections[i]? = none ∧ l.enteredBy i = [] ∧ l'.connections[i]? = some .opened) := by
  cases hm with
  | shared => exact ⟨enteredBy_eq (l := l) rfl i, Or.inl rfl⟩
  | accept =>
    refine ⟨rfl, ?_⟩
    dsimp only
    rcases Nat.lt_trichotomy i l.connections.length with hi | rfl | hi
    · exact Or.inl (List.getElem?_append_left hi)
    · refine Or.inr ⟨List.getElem?_eq_none le_rfl, hf.enteredBy_length, ?_⟩
      exact List.getElem?_concat_length
    · refine Or.inl ?_
      rw [List.getElem?_eq_none hi.le, List.getElem?_eq_none]
      rw [List.length_append]
      exact hi
  | connection x j d d' e q place =>
    have hij : j ≠ i := by
      rintro rfl
      exact hx place
    refine ⟨?_, Or.inl (List.getElem?_set_ne hij)⟩
    rw [enteredBy_append (l := l) rfl, if_neg hij, List.append_nil]

/-- The queue is served, and what has entered from a connection and what remains make up what its
lines bring, whatever may still come before the stream is over. -/
structure Undisturbed (l : Listener) (i room : Nat) : Prop where
  faithful : l.Faithful
  queue : l.IsServed room
  settled : ∀ c, l.connections[i]? = some c → ∀ more, Continues c.isOver more true →
    outcome (Listen.lines true (c.received ++ more)) = (c.remaining more).after (l.enteredBy i)

lemma undisturbed_start (i room : Nat) : (start (.ofCapacity room)).Undisturbed i room :=
  ⟨faithful_start _, ⟨rfl, rfl, Nat.zero_le _⟩, fun c hc => by simp [start] at hc⟩

lemma Undisturbed.step (h : l.Undisturbed i room) (hfail : x ≠ .fail i) (hexpire : x ≠ .expire i)
    (hleave : x ≠ .leave) (hs : l.step x = some l') : l'.Undisturbed i room := by
  refine ⟨h.faithful.moves (moves_step hs), h.queue.step hleave hs, fun d hd more hm => ?_⟩
  by_cases hx : x.connection? = some i
  · cases x with
    | arrive j bytes =>
      obtain rfl := Option.some.inj hx
      obtain ⟨c, hc, hs⟩ := Option.bind_eq_some_iff.mp hs
      split at hs
      next => cases hs
      next ho =>
        obtain rfl := Option.some.inj hs
        rw [set, List.getElem?_set_self (List.getElem?_eq_some_iff.mp hc).1] at hd
        obtain rfl := Option.some.inj hd
        -- what arrives was the beginning of what might still come
        have hmore := h.settled c hc (bytes ++ more) (.of_running (Bool.eq_false_iff.mpr ho))
        rw [← List.append_assoc] at hmore
        rw [hmore]
        simp only [Connection.remaining, List.append_assoc]
        rfl
    | close j =>
      obtain rfl := Option.some.inj hx
      obtain ⟨c, hc, hs⟩ := Option.bind_eq_some_iff.mp hs
      split at hs
      next => cases hs
      next ho =>
        obtain rfl := Option.some.inj hs
        rw [set, List.getElem?_set_self (List.getElem?_eq_some_iff.mp hc).1] at hd
        obtain rfl := Option.some.inj hd
        exact h.settled c hc more (.of_running (Bool.eq_false_iff.mpr ho))
    | work j =>
      obtain rfl := Option.some.inj hx
      obtain ⟨c, hc, -⟩ := Option.bind_eq_some_iff.mp hs
      obtain ⟨c', e, hn, -, rfl⟩ := work_eq_some_of_open hc h.queue.isOpen hs
      rw [takes, List.getElem?_set_self (List.getElem?_eq_some_iff.mp hc).1] at hd
      obtain rfl := Option.some.inj hd
      obtain ⟨hreceived, hover⟩ := Connection.next_keeps hn
      rw [hover] at hm
      rw [hreceived, h.settled c hc more hm, Connection.remaining_next hn hm, enteredBy_takes,
        Outcome.after_append]
    | fail j => exact absurd (congrArg Event.fail (Option.some.inj hx)) hfail
    | expire j => exact absurd (congrArg Event.expire (Option.some.inj hx)) hexpire
    | accept | offer m | consume | leave => cases hx
  · obtain ⟨he, hsame | ⟨-, hnone, hnew⟩⟩ := (moves_step hs).elsewhere h.faithful hx
    · rw [he]
      exact h.settled d (hsame ▸ hd) more hm
    · rw [hnew] at hd
      obtain rfl := Option.some.inj hd
      rw [he, hnone]
      rfl

/-- Nothing disturbs a connection that is left alone. -/
theorem undisturbed_run {events : List Event}
    (h : ∀ x ∈ events, x ≠ .fail i ∧ x ≠ .expire i ∧ x ≠ .leave) :
    ((start (.ofCapacity room)).run events).Undisturbed i room := by
  refine keeps_run_of_mem (P := fun l : Listener => l.Undisturbed i room) (fun hx hl hs => ?_)
    (undisturbed_start i room)
  obtain ⟨hfail, hexpire, hleave⟩ := h _ hx
  exact Undisturbed.step hl hfail hexpire hleave hs

end Listener

end MetricAgent.Listen
