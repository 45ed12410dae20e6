import MetricAgent.Proofs.Http.Moves

/-!
The requests for one body. They are the same, there is at least one and never more than may be
made, and only the last one can come to something else than another attempt.
-/

namespace MetricAgent.Http.Delivery

open Time

variable {d : Delivery} {replies : Nat → Reply} {q : Request} {left n : Nat}

/-- The exchanges of one request, each but the last one asking for another. -/
structure IsBlock (d : Delivery) (q : Request) (block : List (Request × Reply)) (limit : Nat) :
    Prop where
  ne_nil : block ≠ []
  length_le : block.length ≤ limit
  same : ∀ e ∈ block, e.1 = q
  retried : ∀ e ∈ block.dropLast, d.Retries e.2

lemma IsBlock.singleton (reply : Reply) {limit : Nat} (h : 0 < limit) :
    IsBlock d q [(q, reply)] limit where
  ne_nil := by simp
  length_le := h
  same := by simp
  retried := by simp

lemma IsBlock.cons {block : List (Request × Reply)} {reply : Reply} {limit : Nat}
    (h : IsBlock d q block limit) (hr : d.Retries reply) :
    IsBlock d q ((q, reply) :: block) (limit + 1) where
  ne_nil := by simp
  length_le := Nat.succ_le_succ h.length_le
  same := by
    intro e he
    rcases List.mem_cons.mp he with rfl | he
    · rfl
    · exact h.same e he
  retried := by
    intro e he
    rw [List.dropLast_cons_of_ne_nil h.ne_nil] at he
    rcases List.mem_cons.mp he with rfl | he
    · exact hr
    · exact h.retried e he

lemma IsBlock.of_append {pre post : List (Request × Reply)} {limit : Nat}
    (h : IsBlock d q (pre ++ post) limit) (hpost : post ≠ []) :
    ∀ e ∈ pre, e.1 = q ∧ d.Retries e.2 := by
  intro e he
  refine ⟨h.same e (List.mem_append_left post he), h.retried e ?_⟩
  rw [List.dropLast_append_of_ne_nil hpost]
  exact List.mem_append_left _ he

lemma IsBlock.prefix {pre post : List (Request × Reply)} {limit : Nat}
    (h : IsBlock d q (pre ++ post) limit) (hpre : pre ≠ []) (hpost : post ≠ []) :
    IsBlock d q pre limit where
  ne_nil := hpre
  length_le := by
    have := h.length_le
    rw [List.length_append] at this
    omega
  same := fun e he => (h.of_append hpost e he).1
  retried := fun e he => (h.of_append hpost e (List.dropLast_subset _ he)).2

/-! ### The loop of attempts -/

lemma attempts_of_ending {result : Except DeliveryError Unit} (q : Request) (pause : Span)
    (h : d.ending? left (replies n) = some result) :
    (d.attempts replies q pause left n).exchanges = [(q, replies n)] ∧
      (d.attempts replies q pause left n).pauses = [] ∧
      (d.attempts replies q pause left n).result = result := by
  unfold ending? at h
  unfold attempts
  cases ho : d.outcome (replies n) with
  | delivered =>
    simp only [ho, Option.some.injEq] at h ⊢
    exact ⟨trivial, trivial, h⟩
  | rejected status body =>
    simp only [ho, Option.some.injEq] at h ⊢
    exact ⟨trivial, trivial, h⟩
  | retry reason =>
    cases left with
    | zero =>
      simp only [ho, if_true, Option.some.injEq] at h ⊢
      exact ⟨trivial, trivial, h⟩
    | succ left => simp [ho] at h

lemma attempts_of_again (q : Request) (pause : Span)
    (h : d.ending? (left + 1) (replies n) = none) :
    (d.attempts replies q pause (left + 1) n).exchanges =
        (q, replies n) :: (d.attempts replies q pause.double left (n + 1)).exchanges ∧
      (d.attempts replies q pause (left + 1) n).pauses =
        pause :: (d.attempts replies q pause.double left (n + 1)).pauses ∧
      (d.attempts replies q pause (left + 1) n).result =
        (d.attempts replies q pause.double left (n + 1)).result := by
  obtain ⟨reason, ho⟩ := retries_of_ending_none h
  rw [attempts]
  simp [ho]

theorem isBlock_attempts {pause : Span} :
    IsBlock d q (d.attempts replies q pause left n).exchanges (left + 1) := by
  induction left generalizing n pause with
  | zero =>
    cases he : d.ending? 0 (replies n) with
    | none =>
      obtain ⟨k, hk⟩ := left_of_ending_none he
      cases hk
    | some result =>
      rw [(attempts_of_ending q pause he).1]
      exact .singleton _ Nat.one_pos
  | succ left ih =>
    cases he : d.ending? (left + 1) (replies n) with
    | none =>
      rw [(attempts_of_again q pause he).1]
      exact ih.cons (retries_of_ending_none he)
    | some result =>
      rw [(attempts_of_ending q pause he).1]
      exact .singleton _ (Nat.succ_pos _)

/-- Only when no attempt is left does the last reply ask for another. -/
theorem length_of_getLast_retries {pause : Span} {e : Request × Reply}
    (he : (d.attempts replies q pause left n).exchanges.getLast? = some e) (hr : d.Retries e.2) :
    (d.attempts replies q pause left n).exchanges.length = left + 1 := by
  induction left generalizing n pause with
  | zero =>
    have h : IsBlock d q (d.attempts replies q pause 0 n).exchanges 1 := isBlock_attempts
    have := List.length_pos_iff.mpr h.ne_nil
    have := h.length_le
    omega
  | succ left ih =>
    cases ho : d.ending? (left + 1) (replies n) with
    | none =>
      rw [(attempts_of_again q pause ho).1] at he ⊢
      rw [List.getLast?_cons_of_ne_nil isBlock_attempts.ne_nil] at he
      rw [List.length_cons, ih he]
    | some result =>
      rw [(attempts_of_ending q pause ho).1] at he
      obtain rfl := Option.some.inj he
      cases left_of_retries ho hr

lemma length_attempts_pos {pause : Span} :
    0 < (d.attempts replies q pause left n).exchanges.length :=
  List.length_pos_iff.mpr isBlock_attempts.ne_nil

lemma attempts_congr {replies' : Nat → Reply} {pause : Span} {m : Nat}
    (h : ∀ i < (d.attempts replies q pause left n).exchanges.length,
      replies' (m + i) = replies (n + i)) :
    d.attempts replies' q pause left m = d.attempts replies q pause left n := by
  induction left generalizing n m pause with
  | zero =>
    have h0 : replies' m = replies n := h 0 length_attempts_pos
    unfold attempts
    simp only [h0]
  | succ left ih =>
    have h0 : replies' m = replies n := h 0 length_attempts_pos
    unfold attempts
    simp only [h0]
    cases ho : d.outcome (replies n) with
    | delivered => rfl
    | rejected status body => rfl
    | retry reason =>
      have hrest : d.attempts replies' q pause.double left (m + 1) =
          d.attempts replies q pause.double left (n + 1) := by
        refine ih fun i hi => ?_
        have hnext := h (i + 1) ?_
        · rwa [Nat.add_right_comm, Nat.add_right_comm n]
        · unfold attempts
          simp only [ho, List.length_cons]
          omega
      simp only [hrest]

/-! ### Whole deliveries -/

theorem isBlock_send (d : Delivery) (replies : Nat → Reply) (n : Nat) (body : String) :
    IsBlock d (d.request body) (d.send replies n body).exchanges maxAttempts :=
  isBlock_attempts

end MetricAgent.Http.Delivery
