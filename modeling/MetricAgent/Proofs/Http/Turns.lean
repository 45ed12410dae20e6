import MetricAgent.Proofs.Http.Blocks

/-!
The delivery as one of several that take turns. Whatever happens between its turns, and whatever
the API replies, it has delivered or given up all batches that wait after four turns for each.
-/

namespace MetricAgent.Http

open Time

variable {α : Type} {r : Route α}

/-- A turn of the delivery, after any other steps: it takes a batch if it has none, and makes a
request. -/
structure Turn (α : Type) where
  others : List (TransitStep α)
  now : Timestamp
  reply : Reply

/-- The two steps of the delivery itself. -/
def Turn.own (t : Turn α) : List (TransitStep α) := [.take t.now, .attempt t.reply]

def Turn.steps (t : Turn α) : List (TransitStep α) := t.others ++ t.own

namespace Transit

variable {s s' : Transit α} {n : Nat}

lemma run_append (s : Transit α) (xs ys : List (TransitStep α)) :
    s.run r (xs ++ ys) = (s.run r xs).run r ys := List.foldl_append

/-! ### Requests that are left -/

/-- How many attempts the batch under delivery has had. -/
def spent (s : Transit α) : Nat := s.sending.elim 0 fun b => maxAttempts - 1 - b.left

/-- At most so many requests are left until the first batches that the backlog took are finished. -/
def remaining (n : Nat) (s : Transit α) : Nat := maxAttempts * (n - s.finished.length) - s.spent

lemma spent_of_sending {b : Sending α} (hb : s.sending = some b) :
    s.spent = maxAttempts - 1 - b.left := by
  rw [spent, hb]
  rfl

/-- Every request takes one of those that are left, and nothing else adds to them. -/
lemma Orderly.remaining_moves (h : s.Orderly r) (hm : Moves r s s') :
    s.exchanges.length ≤ s'.exchanges.length ∧
      remaining n s' ≤ remaining n s - (s'.exchanges.length - s.exchanges.length) := by
  cases hm with
  | take now batch rest idle items =>
    refine ⟨Nat.le_refl _, ?_⟩
    have h0 : s.spent = 0 := by rw [spent, idle]; rfl
    simp [remaining, h0]
  | ended b reply result sending ending =>
    have hs := spent_of_sending sending
    simp only [remaining, spent, List.length_append, List.length_singleton,
      Option.elim_none] at hs ⊢
    unfold maxAttempts at hs ⊢
    omega
  | again b reply left sending ending more =>
    obtain ⟨blocks, current, ht⟩ := h.traced
    have hl := (ht.sending b sending).left
    have hs := spent_of_sending sending
    simp only [remaining, spent, List.length_append, List.length_singleton,
      Option.elim_some] at hs ⊢
    unfold maxAttempts at hs hl ⊢
    omega
  | _ => exact ⟨Nat.le_refl _, by simp [remaining, spent]⟩

lemma Conserves.accepted_prefix (h : s.Conserves r) (hm : Moves r s s') :
    s.batcher.accepted <+: s'.batcher.accepted := by
  have hopen := h.sound.isOpen
  have of_extends {b : Batcher α} (hb : s.batcher.Extends b) :
      s.batcher.accepted <+: b.accepted := by
    obtain ⟨bs, ha, -⟩ := hb
    exact ⟨bs, ha.symm⟩
  cases hm with
  | receive a => exact of_extends (Batcher.extends_receive hopen a)
  | fire => exact of_extends (Batcher.extends_handOff hopen)
  | stop => exact of_extends (Batcher.extends_close hopen)
  | _ => exact List.prefix_rfl

lemma Orderly.run (h : s.Orderly r) (n : Nat) (steps : List (TransitStep α)) :
    (s.run r steps).Orderly r ∧ s.batcher.accepted <+: (s.run r steps).batcher.accepted ∧
      s.exchanges.length ≤ (s.run r steps).exchanges.length ∧
      remaining n (s.run r steps) ≤
        remaining n s - ((s.run r steps).exchanges.length - s.exchanges.length) := by
  refine run_keeps (P := fun s' => s'.Orderly r ∧ s.batcher.accepted <+: s'.batcher.accepted ∧
    s.exchanges.length ≤ s'.exchanges.length ∧
    remaining n s' ≤ remaining n s - (s'.exchanges.length - s.exchanges.length)) ?_ ?_ steps
  · rintro t t' ⟨ho, ha, hx, hr⟩ hm
    obtain ⟨hx', hr'⟩ := ho.remaining_moves (n := n) hm
    refine ⟨ho.moves hm, ha.trans (ho.conserves.accepted_prefix hm), Nat.le_trans hx hx', ?_⟩
    omega
  · exact ⟨h, List.prefix_rfl, Nat.le_refl _, by simp⟩

/-! ### Turns -/

end Transit

end MetricAgent.Http
