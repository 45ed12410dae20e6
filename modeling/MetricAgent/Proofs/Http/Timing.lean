import MetricAgent.Proofs.Http.Conservation

/-!
When batches leave the batcher. A run shows when each element came and when each batch was handed
off: a full batch with its last element, and any other a fixed time after its first one, whatever
the deadline of an earlier batch was.
-/

namespace MetricAgent.Http

open Time

variable {α : Type}

/-! ### What a run shows -/

/-- An element and the instant at which the batcher received it. -/
structure Arrival (α : Type) where
  element : α
  instant : Nat

/-- What can be seen of a batcher. -/
inductive BatchEvent (α : Type) where
  | arrived (e : Arrival α)
  /-- The stream has ended. -/
  | ended (instant : Nat)
  | handedOff (batch : List α) (instant : Nat)

/-- What a change of a batcher shows: arrivals, the end of the stream, and hand-offs. -/
def Batcher.changes (b b' : Batcher α) : List (BatchEvent α) :=
  (b'.received.drop b.received.length).map (fun a => .arrived ⟨a, b.now⟩) ++
    (if b'.stopped && !b.stopped then [.ended b.now] else []) ++
    (b'.batches.drop b.batches.length).map (fun batch => .handedOff batch b.now)

/-- What the steps of a run show, in order. -/
def Transit.log (r : Route α) (s : Transit α) : List (TransitStep α) → List (BatchEvent α)
  | [] => []
  | x :: steps =>
    let s' := (s.step r x).getD s
    s.batcher.changes s'.batcher ++ s'.log r steps

/-- Nothing is under way, and there is some deadline of no batch. -/
def Transit.startWith (capacity stale : Nat) : Transit α :=
  { start capacity with batcher := { Batcher.start with deadline := stale } }

/-! ### Histories -/

/-- The arrivals of a batch and the instant at which it was handed off. -/
structure Group (α : Type) where
  arrivals : List (Arrival α)
  leaves : Nat

/-- What happened: batches while the stream went on, later arrivals, and the end of the stream. -/
structure History (α : Type) where
  groups : List (Group α)
  rest : List (Arrival α)
  ended : Option Nat

namespace Group

def batch (g : Group α) : List α := g.arrivals.map Arrival.element

def events (g : Group α) : List (BatchEvent α) :=
  g.arrivals.map .arrived ++ [.handedOff g.batch g.leaves]

end Group

namespace History

/-- The last batch: what has arrived since the others, once the stream has ended. -/
def final (h : History α) : List (Group α) :=
  match h.ended with
  | some t => if h.rest.isEmpty then [] else [⟨h.rest, t⟩]
  | none => []

def batches (h : History α) : List (List α) := (h.groups ++ h.final).map Group.batch

def events (h : History α) : List (BatchEvent α) :=
  h.groups.flatMap Group.events ++ h.rest.map .arrived ++ h.ended.toList.map .ended ++
    h.final.map (fun g => .handedOff g.batch g.leaves)

end History

/-- Arrivals up to an instant, which is no later than a timeout after the first of them. -/
def Waits (l : BatchLimits) (arrivals : List (Arrival α)) (t : Nat) : Prop :=
  ∀ first ∈ arrivals.head?, t ≤ first.instant + l.timeout ∧
    ∀ e ∈ arrivals, first.instant ≤ e.instant ∧ e.instant ≤ t

/-- A batch leaves with its last arrival if it is full, and else a timeout after the first. -/
structure Group.IsTimely (l : BatchLimits) (g : Group α) : Prop where
  ne_nil : g.arrivals ≠ []
  length_le : g.arrivals.length ≤ l.size
  full : g.arrivals.length = l.size → ∀ last ∈ g.arrivals.getLast?, g.leaves = last.instant
  timed : g.arrivals.length < l.size →
    ∀ first ∈ g.arrivals.head?, g.leaves = first.instant + l.timeout
  waits : Waits l g.arrivals g.leaves

/-- A history is that of a batcher: its batches came in time, and its deadline is right. -/
structure History.Tells (l : BatchLimits) (h : History α) (b : Batcher α) : Prop where
  timely : ∀ g ∈ h.groups, g.IsTimely l
  batches : b.batches = h.batches
  stopped : b.stopped = h.ended.isSome
  pending : b.pending = if b.stopped then [] else h.rest.map Arrival.element
  deadline : b.pending ≠ [] → ∀ first ∈ h.rest.head?, b.deadline = first.instant + l.timeout
  waits : Waits l h.rest (h.ended.getD b.now)

variable {l : BatchLimits} {arrivals : List (Arrival α)} {t t' : Nat} {b b' : Batcher α}
  {h : History α}

lemma Waits.arrive (hw : Waits l arrivals t) (a : α) : Waits l (arrivals ++ [⟨a, t⟩]) t := by
  intro first hfirst
  cases arrivals with
  | nil =>
    obtain rfl := Option.some.inj hfirst
    exact ⟨Nat.le_add_right t l.timeout, by simp⟩
  | cons e rest =>
    obtain ⟨htime, hall⟩ := hw first hfirst
    refine ⟨htime, fun x hx => ?_⟩
    rcases List.mem_append.mp hx with hx | hx
    · exact hall x hx
    · obtain rfl := List.mem_singleton.mp hx
      exact ⟨Nat.le_trans (hall first (List.mem_of_mem_head? hfirst)).1
        (hall first (List.mem_of_mem_head? hfirst)).2, Nat.le_refl _⟩

lemma Waits.pass (hw : Waits l arrivals t) (hle : t ≤ t')
    (htime : ∀ first ∈ arrivals.head?, t' ≤ first.instant + l.timeout) :
    Waits l arrivals t' := by
  intro first hfirst
  refine ⟨htime first hfirst, fun e he => ?_⟩
  have := (hw first hfirst).2 e he
  omega

/-! ### One step of the batcher -/

/-- What a step can do to the batcher; steps of others leave it, but for its backlog. -/
inductive Batcher.Moves (l : BatchLimits) (b : Batcher α) : Batcher α → Prop where
  | idle (q : Queue (List α)) : Moves l b { b with backlog := q }
  | receive (a : α) (running : b.stopped = false) : Moves l b (b.receive l a)
  | pass (t : Nat) (later : b.now ≤ t) (inTime : b.pending = [] ∨ t ≤ b.deadline) :
      Moves l b { b with now := t }
  | fire (due : b.pending ≠ []) (late : b.deadline ≤ b.now) : Moves l b b.handOff
  | close : Moves l b b.close

lemma Transit.Moves.batcher {r : Route α} {s s' : Transit α} (hm : s.Moves r s') :
    s.batcher.Moves r.limits s'.batcher := by
  cases hm with
  | offer a => exact .idle s.batcher.backlog
  | leave => exact .idle s.batcher.backlog
  | receive a rest running => exact .receive a running
  | pass t later inTime => exact .pass t later inTime
  | fire due late => exact .fire due late
  | stop => exact .close
  | take now batch rest => exact .idle _
  | ended b reply result => exact .idle s.batcher.backlog
  | again b reply left => exact .idle s.batcher.backlog

namespace Batcher

@[simp] lemma batches_handOff (b : Batcher α) : b.handOff.batches = b.batches ++ [b.pending] :=
  map_fst_handedOff_handOff b

lemma Moves.deadline (hm : b.Moves l b') (hp : b.pending ≠ []) (hp' : b'.pending ≠ []) :
    b'.deadline = b.deadline := by
  cases hm with
  | idle q => rfl
  | receive a =>
    rw [receive_eq] at hp' ⊢
    split at hp'
    next => exact absurd (pending_handOff _) hp'
    next hlt =>
      rw [if_neg hlt]
      exact if_neg (by simpa using hp)
  | pass t => rfl
  | fire => exact absurd (pending_handOff b) hp'
  | close =>
    rcases b.close_cases with hc | ⟨hnil, -⟩ | ⟨-, hc⟩
    · rw [hc]
    · exact absurd hnil hp
    · rw [hc] at hp'
      exact absurd (pending_handOff b) hp'

/-- While nothing is pending only an arrival can be handed off, at once and alone. -/
lemma Moves.batches_of_idle (hm : b.Moves l b') (hp : b.pending = [])
    (hne : b'.batches ≠ b.batches) :
    ∃ a, b'.received = b.received ++ [a] ∧ b'.batches = b.batches ++ [[a]] := by
  cases hm with
  | idle q => exact absurd rfl hne
  | receive a =>
    refine ⟨a, received_receive a, ?_⟩
    rw [receive_eq] at hne ⊢
    split at hne
    next hfull =>
      rw [if_pos hfull, batches_handOff]
      simp [put, hp, batches]
    next => exact absurd rfl hne
  | pass t => exact absurd rfl hne
  | fire due => exact absurd hp due
  | close =>
    rcases b.close_cases with hc | ⟨-, hc⟩ | ⟨hpending, -⟩
    · exact absurd (congrArg batches hc) hne
    · exact absurd (congrArg batches hc) hne
    · exact absurd hp hpending

lemma changes_eq (as : List α) (bs : List (List α)) (hr : b'.received = b.received ++ as)
    (hb : b'.batches = b.batches ++ bs) (hs : b'.stopped = b.stopped) :
    b.changes b' =
      as.map (fun a => .arrived ⟨a, b.now⟩) ++ bs.map (fun batch => .handedOff batch b.now) := by
  simp [changes, hr, hb, hs]

lemma changes_of_still (hr : b'.received = b.received) (hb : b'.batches = b.batches)
    (hs : b'.stopped = b.stopped) : b.changes b' = [] :=
  changes_eq [] [] (by simp [hr]) (by simp [hb]) hs

lemma close_of_running (hs : b.stopped = false) :
    b.close.stopped = true ∧ b.close.pending = [] ∧
      b.close.batches = b.batches ++ if b.pending.isEmpty then [] else [b.pending] := by
  cases hp : b.pending with
  | nil => simp [close, hs, hp, batches]
  | cons a rest => simp [close, hs, hp, batches]

end Batcher

namespace History.Tells

lemma running (hb : h.Tells l b) (hs : b.stopped = false) :
    h.ended = none ∧ b.pending = h.rest.map Arrival.element ∧ h.final = [] ∧
      Waits l h.rest b.now := by
  have hended : h.ended = none := by
    rw [← Option.not_isSome_iff_eq_none, ← hb.stopped, hs]
    simp
  refine ⟨hended, ?_, ?_, ?_⟩
  · simpa [hs] using hb.pending
  · simp [final, hended]
  · simpa [hended] using hb.waits

lemma running_of_pending (hb : h.Tells l b) (hp : b.pending ≠ []) : b.stopped = false := by
  refine Bool.eq_false_iff.mpr fun hs => hp ?_
  simpa [hs] using hb.pending

lemma rest_eq_nil (hb : h.Tells l b) (hs : b.stopped = false) : b.pending = [] ↔ h.rest = [] := by
  rw [(hb.running hs).2.1, List.map_eq_nil_iff]

lemma pass {t : Nat} (hb : h.Tells l b) (later : b.now ≤ t)
    (inTime : b.pending = [] ∨ t ≤ b.deadline) : h.Tells l { b with now := t } := by
  refine ⟨hb.timely, hb.batches, hb.stopped, hb.pending, hb.deadline, ?_⟩
  cases hended : h.ended with
  | some t₀ => simpa [hended] using hb.waits
  | none =>
    have hs : b.stopped = false := by rw [hb.stopped, hended, Option.isSome_none]
    obtain ⟨-, -, -, hwaits⟩ := hb.running hs
    refine hwaits.pass later fun first hfirst => ?_
    have hp : b.pending ≠ [] := by
      rw [ne_eq, hb.rest_eq_nil hs]
      rintro hnil
      simp [hnil] at hfirst
    rw [← hb.deadline hp first hfirst]
    exact inTime.resolve_left hp

lemma still (hb : h.Tells l b') (hlt : h.rest.length < l.size) (hr : b'.received = b.received)
    (hbatches : b'.batches = b.batches) (hs : b'.stopped = b.stopped) :
    ∃ h' : History α, h'.Tells l b' ∧ h'.rest.length < l.size ∧
      h'.events = h.events ++ b.changes b' := by
  refine ⟨h, hb, hlt, ?_⟩
  rw [Batcher.changes_of_still hr hbatches hs, List.append_nil]

lemma handOff (hb : h.Tells l b) (hs : b.stopped = false) (hg : Group.IsTimely l ⟨h.rest, b.now⟩) :
    History.Tells l ⟨h.groups ++ [⟨h.rest, b.now⟩], [], none⟩ b.handOff ∧
      (⟨h.groups ++ [⟨h.rest, b.now⟩], [], none⟩ : History α).events =
        h.events ++ [.handedOff b.pending b.now] := by
  obtain ⟨hended, hpending, hfinal, -⟩ := hb.running hs
  refine ⟨⟨?_, ?_, hs, ?_, ?_, ?_⟩, ?_⟩
  · intro g hmem
    rcases List.mem_append.mp hmem with hmem | hmem
    · exact hb.timely g hmem
    · obtain rfl := List.mem_singleton.mp hmem
      exact hg
  · rw [Batcher.batches_handOff, hb.batches, hpending]
    simp [History.batches, History.final, hended, Group.batch]
  · simp
  · simp
  · intro first hfirst
    cases hfirst
  · rw [hpending]
    simp [events, History.final, hended, Group.events, Group.batch]

lemma put (hb : h.Tells l b) (hs : b.stopped = false) (a : α) :
    History.Tells l ⟨h.groups, h.rest ++ [⟨a, b.now⟩], none⟩ (b.put l a) := by
  obtain ⟨hended, hpending, hfinal, hwaits⟩ := hb.running hs
  refine ⟨hb.timely, ?_, hs, ?_, ?_, hwaits.arrive a⟩
  · change b.batches = _
    rw [hb.batches]
    simp [History.batches, History.final, hended]
  · change b.pending ++ [a] = if b.stopped then [] else _
    simp [hs, hpending]
  · intro _ first hfirst
    change (if b.pending.isEmpty then b.now + l.timeout else b.deadline) = _
    cases hrest : h.rest with
    | nil =>
      rw [hrest] at hfirst
      obtain rfl := Option.some.inj hfirst
      rw [(hb.rest_eq_nil hs).mpr hrest]
      rfl
    | cons e rest =>
      have hp : b.pending ≠ [] := by
        rw [ne_eq, hb.rest_eq_nil hs, hrest]
        exact List.cons_ne_nil e rest
      rw [if_neg (by simpa using hp)]
      exact hb.deadline hp first (by simpa [hrest] using hfirst)

lemma receive (hb : h.Tells l b) (hs : b.stopped = false) (hlt : h.rest.length < l.size) (a : α) :
    ∃ h' : History α, h'.Tells l (b.receive l a) ∧ h'.rest.length < l.size ∧
      h'.events = h.events ++ b.changes (b.receive l a) := by
  obtain ⟨hended, hpending, hfinal, hwaits⟩ := hb.running hs
  have hput := hb.put hs a
  have hlength : (b.put l a).pending.length = h.rest.length + 1 := by
    change (b.pending ++ [a]).length = _
    simp [hpending]
  rw [Batcher.receive_eq, hlength]
  by_cases hfull : l.size ≤ h.rest.length + 1
  · rw [if_pos hfull]
    have hsize : (h.rest ++ [(⟨a, b.now⟩ : Arrival α)]).length = l.size := by
      rw [List.length_append, List.length_singleton]
      omega
    obtain ⟨hof, hevents⟩ := hput.handOff hs
      ⟨by simp, Nat.le_of_eq hsize, fun _ last hlast => by
        rw [List.getLast?_concat] at hlast
        obtain rfl := Option.some.inj hlast
        rfl, fun hlt => absurd hlt (by rw [hsize]; exact Nat.lt_irrefl _), hwaits.arrive a⟩
    have hchanges : b.changes (b.put l a).handOff =
        [.arrived ⟨a, b.now⟩, .handedOff (b.put l a).pending b.now] :=
      Batcher.changes_eq [a] [(b.put l a).pending] (by simp)
        (Batcher.batches_handOff _) rfl
    refine ⟨_, hof, l.size_pos, ?_⟩
    rw [hevents, hchanges]
    simp [events, final, hended, Batcher.put]
  · rw [if_neg hfull]
    have hchanges : b.changes (b.put l a) = [.arrived ⟨a, b.now⟩] :=
      Batcher.changes_eq [a] [] (by simp) (List.append_nil _).symm rfl
    refine ⟨_, hput, by simpa using Nat.not_le.mp hfull, ?_⟩
    rw [hchanges]
    simp [events, final, hended]

/-- At the deadline of what is pending a timeout has passed since the first of it. -/
lemma fire (hb : h.Tells l b) (hlt : h.rest.length < l.size) (due : b.pending ≠ [])
    (late : b.deadline ≤ b.now) :
    ∃ h' : History α, h'.Tells l b.handOff ∧ h'.rest.length < l.size ∧
      h'.events = h.events ++ b.changes b.handOff := by
  have hs := hb.running_of_pending due
  obtain ⟨-, -, -, hwaits⟩ := hb.running hs
  obtain ⟨hof, hevents⟩ := hb.handOff hs
    ⟨fun hnil => due ((hb.rest_eq_nil hs).mpr hnil), Nat.le_of_lt hlt,
      fun hfull => absurd hfull (Nat.ne_of_lt hlt), fun _ first hfirst => by
        have hdeadline := hb.deadline due first hfirst
        have := (hwaits first hfirst).1
        change b.now = _
        omega, hwaits⟩
  have hchanges : b.changes b.handOff = [.handedOff b.pending b.now] :=
    Batcher.changes_eq [] [b.pending] (by simp) (Batcher.batches_handOff b) rfl
  exact ⟨_, hof, l.size_pos, by rw [hevents, hchanges]⟩

lemma close (hb : h.Tells l b) (hlt : h.rest.length < l.size) :
    ∃ h' : History α, h'.Tells l b.close ∧ h'.rest.length < l.size ∧
      h'.events = h.events ++ b.changes b.close := by
  cases hs : b.stopped with
  | true =>
    have hclose : b.close = b := by simp [Batcher.close, hs]
    rw [hclose]
    exact still hb hlt rfl rfl rfl
  | false =>
    obtain ⟨hended, hpending, hfinal, hwaits⟩ := hb.running hs
    obtain ⟨hstopped, hempty, hbatches⟩ := Batcher.close_of_running hs
    have hlast : (if b.pending.isEmpty then [] else [b.pending]) =
        (if h.rest.isEmpty then [] else [(⟨h.rest, b.now⟩ : Group α)]).map Group.batch := by
      rw [hpending]
      cases h.rest <;> rfl
    have hchanges : b.changes b.close = .ended b.now ::
        (if b.pending.isEmpty then [] else [b.pending]).map
          fun batch => .handedOff batch b.now := by
      simp [Batcher.changes, Batcher.received_close, hstopped, hs, hbatches]
    refine ⟨⟨h.groups, h.rest, some b.now⟩, ⟨hb.timely, ?_, hstopped, ?_, ?_, hwaits⟩, hlt, ?_⟩
    · rw [hbatches, hb.batches, hlast]
      simp [History.batches, final, hended]
    · rw [hempty, if_pos hstopped]
    · exact fun hne => absurd hempty hne
    · rw [hchanges, hlast]
      cases hrest : h.rest <;> simp [events, final, hended, hrest]

lemma moves (hb : h.Tells l b) (hlt : h.rest.length < l.size) (hm : b.Moves l b') :
    ∃ h' : History α, h'.Tells l b' ∧ h'.rest.length < l.size ∧
      h'.events = h.events ++ b.changes b' := by
  cases hm with
  | idle q =>
    have hidle : h.Tells l { b with backlog := q } :=
      ⟨hb.timely, hb.batches, hb.stopped, hb.pending, hb.deadline, hb.waits⟩
    exact still hidle hlt rfl rfl rfl
  | receive a running => exact hb.receive running hlt a
  | pass t later inTime => exact still (hb.pass later inTime) hlt rfl rfl rfl
  | fire due late => exact hb.fire hlt due late
  | close => exact hb.close hlt

lemma now_le_deadline (hb : h.Tells l b) (hp : b.pending ≠ []) : b.now ≤ b.deadline := by
  have hs := hb.running_of_pending hp
  obtain ⟨-, -, -, hwaits⟩ := hb.running hs
  obtain ⟨first, rest, hrest⟩ := List.exists_cons_of_ne_nil (mt (hb.rest_eq_nil hs).mpr hp)
  have hfirst : first ∈ h.rest.head? := by simp [hrest]
  rw [hb.deadline hp first hfirst]
  exact (hwaits first hfirst).1

end History.Tells

/-! ### Runs -/

namespace Transit

variable {r : Route α} {s s' : Transit α}

lemma log_run (hb : h.Tells r.limits s.batcher) (hlt : h.rest.length < r.limits.size)
    (steps : List (TransitStep α)) :
    ∃ h' : History α, h'.Tells r.limits (s.run r steps).batcher ∧
      h'.rest.length < r.limits.size ∧ h'.events = h.events ++ s.log r steps := by
  induction steps generalizing s h with
  | nil => exact ⟨h, hb, hlt, (List.append_nil _).symm⟩
  | cons x steps ih =>
    obtain ⟨h₁, hb₁, hlt₁, he₁⟩ : ∃ h₁ : History α,
        h₁.Tells r.limits ((s.step r x).getD s).batcher ∧ h₁.rest.length < r.limits.size ∧
        h₁.events = h.events ++ s.batcher.changes ((s.step r x).getD s).batcher := by
      -- a step that cannot be taken leaves the state, and shows nothing
      cases hx : s.step r x with
      | none => exact History.Tells.still hb hlt rfl rfl rfl
      | some s' => exact hb.moves hlt (moves_step hx).batcher
    obtain ⟨h', hb', hlt', he'⟩ := ih hb₁ hlt₁
    refine ⟨h', hb', hlt', ?_⟩
    rw [he', he₁, List.append_assoc]
    rfl

lemma conserves_startWith (r : Route α) (capacity stale : Nat) :
    (startWith capacity stale).Conserves r := by
  obtain ⟨⟨ho, hc, hl, hz, hm, hd⟩, hp, hi, ha⟩ := conserves_start r capacity
  exact ⟨⟨ho, hc, hl, hz, hm, hd⟩, hp, hi, ha⟩

lemma isSome_fire : (s.step r .fire).isSome = true ↔
    s.batcher.pending ≠ [] ∧ s.batcher.deadline ≤ s.batcher.now := by
  rw [← Batcher.isDueAt_iff, step]
  split <;> simp_all

lemma isSome_pass {t : Nat} : (s.step r (.pass t)).isSome = true ↔
    s.batcher.now ≤ t ∧ (s.batcher.pending = [] ∨ t ≤ s.batcher.deadline) := by
  rw [step, Option.isSome_iff_exists]
  simp only [pass_eq_some, exists_and_left, exists_eq, and_true]

/--
**When batches leave.** Whatever deadline there is at the start, a run shows arrivals and hand-offs
that fall into batches: each but the one at the end of the stream leaves with its last arrival if it
is full, and else a timeout after its first arrival, with all that came until then. The deadline of
what is pending is a timeout after the first of it, no further arrival moves it, and time does not
go past it without a hand-off. While nothing is pending no deadline stops time or hands off a batch.

A batch that leaves goes to the backlog or, if that is full, is dropped: the batches that the
backlog took are those that are finished, under delivery and still in it, in order.
-/
theorem hands_off_in_time (size timeout capacity stale : Nat) (d : Delivery)
    (body : Timestamp → List α → String) (steps : List (TransitStep α)) :
    let r : Route α := ⟨.ofSize size timeout, d, body⟩
    let idle : Transit α := startWith capacity stale
    let s := idle.run r steps
    let b := s.batcher
    (∃ h : History α, h.events = idle.log r steps ∧ h.Tells r.limits b ∧
      h.rest.length < max size 1) ∧
    (∀ x s', s.step r x = some s' → b.pending ≠ [] → s'.batcher.pending ≠ [] →
      s'.batcher.deadline = b.deadline) ∧
    (b.pending ≠ [] → b.now ≤ b.deadline ∧
      ((s.step r .fire).isSome ↔ b.now = b.deadline) ∧
      ∀ t, (s.step r (.pass t)).isSome ↔ b.now ≤ t ∧ t ≤ b.deadline) ∧
    (b.pending = [] → ¬ (s.step r .fire).isSome ∧
      (∀ t, (s.step r (.pass t)).isSome ↔ b.now ≤ t) ∧
      ∀ x s', s.step r x = some s' → s'.batcher.batches ≠ b.batches →
        ∃ a, s'.batcher.received = b.received ++ [a] ∧
          s'.batcher.batches = b.batches ++ [[a]]) ∧
    b.batches.Perm (b.accepted ++ b.dropped) ∧
    b.accepted = s.finished.map Prod.fst ++ s.underWay ++ b.backlog.items ∧
    ∀ x s', s.step r x = some s' → b.HandsOff s'.batcher := by
  intro r idle s b
  have hidle : History.Tells r.limits ⟨[], [], none⟩ idle.batcher :=
    ⟨by simp, rfl, rfl, rfl, fun hp => absurd rfl hp, fun _ hfirst => by cases hfirst⟩
  obtain ⟨h, htells, hlt, hevents⟩ := log_run hidle r.limits.size_pos steps
  have hc : s.Conserves r := run_keeps Conserves.moves (conserves_startWith r capacity stale) steps
  refine ⟨⟨h, hevents, htells, hlt⟩, fun x s' hx => (moves_step hx).batcher.deadline,
    fun hp => ?_, fun hp => ⟨?_, fun t => ?_, fun x s' hx =>
      (moves_step hx).batcher.batches_of_idle hp⟩, hc.batches_perm, hc.accepted,
    fun x s' hx => hc.handsOff (moves_step hx)⟩
  · have hle := htells.now_le_deadline hp
    refine ⟨hle, ?_, fun t => ?_⟩
    · rw [isSome_fire]
      exact ⟨fun hd => Nat.le_antisymm hle hd.2, fun hd => ⟨hp, Nat.le_of_eq hd.symm⟩⟩
    · rw [isSome_pass]
      exact and_congr_right fun _ => or_iff_right hp
  · rw [isSome_fire]
    exact fun hd => hd.1 hp
  · rw [isSome_pass]
    exact and_iff_left (.inl hp)

/-- A batch of two that is full at once, and a long time after it. -/
def filledThenIdle : List (TransitStep Nat) :=
  [.offer 1, .receive, .offer 2, .receive, .pass 50]

/--
The deadline that the full batch left behind hands nothing off; the element that comes long after it
has a deadline of its own, which the next one keeps. A batch of one leaves with its arrival.
-/
theorem hands_off_in_time_filledThenIdle :
    let r : Route Nat := ⟨.ofSize 2 10, .loopback, fun _ _ => ""⟩
    let idle : Transit Nat := startWith 1 7
    let s := idle.run r filledThenIdle
    let s₁ := idle.run r (filledThenIdle ++ [.offer 3, .receive])
    s.batcher.pending = [] ∧ s.batcher.deadline = 10 ∧ ¬ (s.step r .fire).isSome ∧
      s₁.batcher.pending = [3] ∧ s₁.batcher.deadline = 60 ∧ ¬ (s₁.step r .fire).isSome ∧
      (∃ s₂, s₁.step r (.offer 4) = some s₂ ∧ s₂.batcher.deadline = s₁.batcher.deadline) ∧
      let r' : Route Nat := ⟨.ofSize 1 10, .loopback, fun _ _ => ""⟩
      let s' := idle.run r' [.offer 1]
      ∃ s'' a, s'.step r' .receive = some s'' ∧
        s''.batcher.batches = s'.batcher.batches ++ [[a]] ∧ s'.batcher.HandsOff s''.batcher := by
  obtain ⟨-, -, -, hidle, -⟩ :=
    hands_off_in_time 2 10 1 7 .loopback (fun _ _ => "") filledThenIdle
  obtain ⟨-, hkeeps, hwaits, -, -⟩ :=
    hands_off_in_time 2 10 1 7 .loopback (fun _ _ => "") (filledThenIdle ++ [.offer 3, .receive])
  obtain ⟨-, -, -, hone, -, -, hoff⟩ :=
    hands_off_in_time 1 10 1 7 .loopback (fun _ _ => "") [.offer (1 : Nat)]
  refine ⟨by decide, by decide, (hidle (by decide)).1, by decide, by decide, ?_, ?_, ?_⟩
  · rw [(hwaits (by decide)).2.1]
    decide
  · exact ⟨_, rfl, hkeeps (.offer 4) _ rfl (by decide) (by decide)⟩
  · obtain ⟨a, -, hbatches⟩ := (hone (by decide)).2.2 .receive _ rfl (by decide)
    exact ⟨_, a, rfl, hbatches, hoff .receive _ rfl⟩

end Transit

end MetricAgent.Http
