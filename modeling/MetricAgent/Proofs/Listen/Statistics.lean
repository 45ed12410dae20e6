import MetricAgent.Proofs.Listen.Moves

/-!
What a listener has counted. Each count is what the connections themselves show, except that a
measurement is counted one step after it has entered the queue.
-/

namespace MetricAgent.Listen

/-- The task has put a measurement into the queue and not yet counted it. -/
def Connection.isCounting (c : Connection) : Bool := c.stage = .counting

/-- The connection was ended by a line that was refused. -/
def Connection.isRejected (c : Connection) : Bool :=
  match c.stage with
  | .ended (.parseError _) => true
  | _ => false

namespace Effect

/-- How many measurements are counted. -/
def metrics : Effect → Nat
  | counts => 1
  | nothing | enters _ | rejects => 0

/-- How many refused lines are counted. -/
def errors : Effect → Nat
  | rejects => 1
  | nothing | enters _ | counts => 0

lemma count_metrics (s : Stats) (e : Effect) :
    (e.count s).metrics = s.metrics + .ofNat e.metrics := by
  cases e with
  | counts => rfl
  | _ => exact (UInt64.add_zero _).symm

lemma count_connections (s : Stats) (e : Effect) : (e.count s).connections = s.connections := by
  cases e <;> rfl

lemma count_parseErrors (s : Stats) (e : Effect) :
    (e.count s).parseErrors = s.parseErrors + .ofNat e.errors := by
  cases e with
  | rejects => rfl
  | _ => exact (UInt64.add_zero _).symm

end Effect

/-! ### One connection -/

section Connection

variable {c c' : Connection} {e : Effect}

/-- What enters the queue is counted before anything else is done. -/
lemma Connection.Moves.counting (hm : c.Moves e c') :
    c'.isCounting.toNat + e.metrics = c.isCounting.toNat + e.entering.length := by
  cases hm <;> simp_all [isCounting, Effect.metrics, Effect.entering]

lemma Connection.Moves.rejected (hm : c.Moves e c') :
    c'.isRejected.toNat = c.isRejected.toNat + e.errors := by
  cases hm with
  | interrupt r stage cause =>
    rcases cause with rfl | rfl <;> simp [isRejected, stage, Effect.errors]
  | _ => simp_all [isRejected, Effect.errors]

lemma countP_set_add {l : List Connection} {i : Nat} (p : Connection → Bool) (c' : Connection)
    (hc : l[i]? = some c) : (l.set i c').countP p + (p c).toNat = l.countP p + (p c').toNat := by
  obtain ⟨hi, rfl⟩ := List.getElem?_eq_some_iff.mp hc
  have hle := List.boole_getElem_le_countP (p := p) hi
  rw [List.countP_set hi]
  cases hp : p l[i] with
  | false => cases p c' <;> simp
  | true =>
    rw [hp, if_pos rfl] at hle
    cases p c' <;> simp <;> omega

end Connection

namespace Listener

variable {l l' : Listener} {x : Event}

/-! ### All connections -/

/-- The counts are those of the connections, as far as they can be counted. -/
structure Counted (l : Listener) : Prop where
  connections : l.stats.connections = .ofNat l.connections.length
  parseErrors : l.stats.parseErrors = .ofNat (l.connections.countP Connection.isRejected)
  metrics : ∃ n, l.stats.metrics = .ofNat n ∧
    n + l.connections.countP Connection.isCounting = l.entered.length

lemma counted_start (queue : Queue Measurement) : (start queue).Counted :=
  ⟨rfl, rfl, 0, rfl, rfl⟩

lemma Counted.moves (h : l.Counted) (hm : l.Moves x l') : l'.Counted := by
  obtain ⟨n, hn, hlen⟩ := h.metrics
  cases hm with
  | shared x q others gone =>
    refine ⟨h.connections, h.parseErrors, n, hn, ?_⟩
    rw [entered_eq (l := l) rfl]
    exact hlen
  | accept =>
    refine ⟨?_, ?_, n, hn, ?_⟩
    · rw [List.length_append, UInt64.ofNat_add, ← h.connections]
      rfl
    · rw [List.countP_append]
      exact h.parseErrors
    · rw [List.countP_append]
      exact hlen
  | connection x i c c' e q place here move =>
    have hr := countP_set_add Connection.isRejected c' here
    have hk := countP_set_add Connection.isCounting c' here
    have hrejected := move.rejected
    have hcounting := move.counting
    refine ⟨?_, ?_, n + e.metrics, ?_, ?_⟩
    · rw [Effect.count_connections, List.length_set]
      exact h.connections
    · rw [Effect.count_parseErrors, h.parseErrors, ← UInt64.ofNat_add]
      congr 1
      dsimp only
      omega
    · rw [Effect.count_metrics, hn, UInt64.ofNat_add]
    · rw [entered_append (l := l) rfl, List.length_append, List.length_map]
      dsimp only
      omega

lemma counted_run (queue : Queue Measurement) (events : List Event) :
    ((start queue).run events).Counted :=
  run_keeps Counted.moves (counted_start queue) events

/-! ### How much there can be -/

lemma Moves.length_connections (hm : l.Moves x l') :
    l'.connections.length = l.connections.length + if x = .accept then 1 else 0 := by
  cases hm with
  | shared x q others gone elsewhere old => rw [if_neg old]; rfl
  | accept => exact List.length_append
  | connection x i c c' e q place =>
    have hx : x ≠ .accept := by
      rintro rfl
      cases place
    rw [if_neg hx]
    exact List.length_set

lemma length_connections_run (l : Listener) (events : List Event) :
    (l.run events).connections.length = l.connections.length + events.count .accept := by
  induction events generalizing l with
  | nil => rfl
  | cons x events ih =>
    have hrun : l.run (x :: events) = ((l.step x).getD l).run events := rfl
    rw [hrun, ih, List.count_cons]
    cases hx : l.step x with
    | some l' =>
      have := (moves_step hx).length_connections
      simp only [Option.getD_some, beq_iff_eq] at this ⊢
      omega
    | none =>
      have hne : x ≠ .accept := by
        rintro rfl
        cases hx
      simp [hne]

lemma Moves.length_entered (hm : l.Moves x l') : l'.entered.length ≤ l.entered.length + 1 := by
  cases hm with
  | shared =>
    rw [entered_eq (l := l) rfl]
    exact Nat.le_succ _
  | accept => exact Nat.le_succ _
  | connection x i c c' e q =>
    rw [entered_append (l := l) rfl, List.length_append, List.length_map]
    cases e <;> simp [Effect.entering]

lemma length_entered_run (queue : Queue Measurement) (events : List Event) :
    ((start queue).run events).entered.length ≤ events.length := by
  have hle := run_le (fun {l x l'} (hx : l.step x = some l') => (moves_step hx).length_entered)
    (start queue) events
  have hstart : (start queue).entered.length = 0 := rfl
  rwa [hstart, Nat.zero_add] at hle

/-- For fewer than 2^64 events no count has started again. -/
theorem stats_run (queue : Queue Measurement) {events : List Event}
    (h : events.length < UInt64.size) :
    let l := (start queue).run events
    l.connections.length = events.count .accept ∧
      l.stats.connections.toNat = l.connections.length ∧
      l.stats.parseErrors.toNat = l.connections.countP Connection.isRejected ∧
      l.stats.metrics.toNat + l.connections.countP Connection.isCounting = l.entered.length := by
  intro l
  unfold UInt64.size at h
  have hc : l.Counted := counted_run queue events
  obtain ⟨n, hn, hlen⟩ := hc.metrics
  have hconn : l.connections.length = events.count .accept := by
    rw [length_connections_run]
    exact Nat.zero_add _
  have hentered : l.entered.length ≤ events.length := length_entered_run queue events
  have haccepted : events.count .accept ≤ events.length := List.count_le_length
  have hrejected : l.connections.countP Connection.isRejected ≤ l.connections.length :=
    List.countP_le_length
  refine ⟨hconn, ?_, ?_, ?_⟩
  · rw [hc.connections, UInt64.toNat_ofNat', Nat.mod_eq_of_lt (by omega)]
  · rw [hc.parseErrors, UInt64.toNat_ofNat', Nat.mod_eq_of_lt (by omega)]
  · rw [hn, UInt64.toNat_ofNat', Nat.mod_eq_of_lt (by omega)]
    exact hlen

end Listener

end MetricAgent.Listen
