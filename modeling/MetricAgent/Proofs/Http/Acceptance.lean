import MetricAgent.Proofs.Http.Blocks

/-!
How often the API accepts one batch. A batch is posted again after the API has accepted it just
when the client has not heard of that in time, so that an answer that is lost or late can make the
API accept a batch more than once.
-/

namespace MetricAgent.Http

open Time

variable {α : Type} {r : Route α}

namespace Delivery

variable {d : Delivery} {reply : Reply}

/-- The head of an answer reaches the client in time. -/
def hears (d : Delivery) : Reply → Bool
  | .answered after _ _ => d.waitsFor after
  | _ => false

/-- What was accepted is posted again if and only if the client does not hear of it. -/
lemma retries_iff_of_isAccepted (h : reply.isAccepted = true) :
    d.Retries reply ↔ d.hears reply = false := by
  cases reply with
  | refused => simp [Reply.isAccepted, Reply.status?] at h
  | broken after status => simp [Retries, outcome, hears]
  | silent status => simp [Retries, outcome, hears]
  | answered after status body =>
    have hs : status < acceptedBelow := by simpa [Reply.isAccepted, Reply.status?] using h
    cases hw : d.waitsFor after <;> simp [Retries, outcome, hears, hw, hs]

end Delivery

lemma length_filter_le_one {β : Type} {p : β → Bool} {l : List β}
    (h : ∀ pre e post, l = pre ++ e :: post → p e = true → post = []) :
    (l.filter p).length ≤ 1 := by
  induction l with
  | nil => exact Nat.zero_le 1
  | cons x l ih =>
    by_cases hx : p x = true
    · obtain rfl := h [] x l rfl hx
      rw [List.filter_cons_of_pos hx]
      exact Nat.le_refl 1
    · rw [List.filter_cons_of_neg hx]
      refine ih fun pre e post hl => h (x :: pre) e post ?_
      rw [hl]
      rfl

lemma Delivered.last_iff {f : Finished α} {pre post : List (Request × Reply)}
    {e : Request × Reply} (h : Delivered r f (pre ++ e :: post)) (he : e.2.isAccepted = true) :
    post = [] ↔ r.delivery.hears e.2 = true ∨ pre.length + 1 = maxAttempts := by
  obtain ⟨now, hblock⟩ := h.posts
  have hr := Delivery.retries_iff_of_isAccepted (d := r.delivery) he
  constructor
  · rintro rfl
    cases hh : r.delivery.hears e.2 with
    | true => exact Or.inl rfl
    | false =>
      have hlen := h.length_of_retries (by simp) (hr.mpr hh)
      rw [List.length_append, List.length_singleton] at hlen
      exact Or.inr hlen
  · intro hlast
    by_contra hpost
    rcases hlast with hh | hlen
    · rw [← List.singleton_append, ← List.append_assoc] at hblock
      have he' := (hblock.of_append hpost e (by simp)).2
      rw [hr, hh] at he'
      cases he'
    · have hle := hblock.length_le
      rw [List.length_append, List.length_cons] at hle
      have := List.length_pos_iff.mpr hpost
      omega

namespace Transit

/--
**When a batch is accepted again.** In the blocks of every run, a request that the API accepted is
followed by another one of the same batch just when its answer did not reach the client in time
and an attempt was left. So the API accepts a batch at most once if its accepting answers arrive.
-/
theorem posted_again_iff_unheard (r : Route α) (capacity : Nat) (steps : List (TransitStep α)) :
    let s := (start capacity).run r steps
    ∃ blocks current, s.exchanges = blocks.flatten ++ current ∧
      List.Forall₂ (fun f block => Posts r f.1 block) s.finished blocks ∧
      (∀ b, s.sending = some b → current = [] ∨ Posts r b.batch current) ∧
      (s.sending = none → current = []) ∧
      s.finished.map Prod.fst ++ s.underWay ++ s.batcher.backlog.items = s.batcher.accepted ∧
      (∀ block ∈ blocks, ∀ pre e post, block = pre ++ e :: post → e.2.isAccepted = true →
        (post = [] ↔ r.delivery.hears e.2 = true ∨ pre.length + 1 = maxAttempts)) ∧
      (∀ e ∈ current, e.2.isAccepted = true → r.delivery.hears e.2 = false) ∧
      ∀ block ∈ current :: blocks,
        (∀ e ∈ block, e.2.isAccepted = true → r.delivery.hears e.2 = true) →
          (block.filter (·.2.isAccepted)).length ≤ 1 := by
  intro s
  have h : s.Orderly r := orderly_run r capacity steps
  obtain ⟨blocks, current, ht⟩ := h.traced
  have hblocks : ∀ block ∈ blocks, ∀ pre e post, block = pre ++ e :: post →
      e.2.isAccepted = true →
      (post = [] ↔ r.delivery.hears e.2 = true ∨ pre.length + 1 = maxAttempts) := by
    rintro block hb pre e post rfl he
    obtain ⟨f, -, hd⟩ := ht.delivered hb
    exact hd.last_iff he
  have hcurrent : ∀ e ∈ current, e.2.isAccepted = true → r.delivery.hears e.2 = false := by
    intro e hc he
    cases hs : s.sending with
    | none =>
      rw [ht.idle hs] at hc
      cases hc
    | some b =>
      have hr := (ht.sending b hs).retries hc
      exact (Delivery.retries_iff_of_isAccepted he).mp hr
  refine ⟨blocks, current, ht.exchanges, ht.finished.imp fun _ _ hd => hd.posts,
    fun b => ht.current, ht.idle, h.conserves.accepted.symm, hblocks, hcurrent, ?_⟩
  intro block hb hheard
  apply length_filter_le_one
  intro pre e post hl he
  have hh := hheard e (by rw [hl]; simp) he
  rcases List.mem_cons.mp hb with rfl | hb
  · rw [hcurrent e (by rw [hl]; simp) he] at hh
    cases hh
  · exact (hblocks block hb pre e post hl he).mpr (Or.inl hh)

/-- The API accepts a measurement without an answer, and once more with one. -/
def unheardFirst : List (TransitStep Measurement) :=
  [.offer ⟨⟨0, 0⟩, "self", ["queue", "length"], .gauge 3, .metrics⟩, .receive, .take ⟨0, 0⟩,
    .attempt (.silent (some 200)), .attempt (.answered .zero 200 .never)]

/-- The two requests are one block, and the client hears of the second only. -/
theorem posted_again_iff_unheard_unheardFirst :
    let r := Delivery.loopback.route (.ofSize 1 0)
    let s := (start 1).run r unheardFirst
    ∃ first last, s.exchanges = [first, last] ∧
      first.2.isAccepted = true ∧ ¬ (r.delivery.hears first.2 = true ∨ 0 + 1 = maxAttempts) ∧
      last.2.isAccepted = true ∧ (r.delivery.hears last.2 = true ∨ 1 + 1 = maxAttempts) := by
  intro r s
  obtain ⟨blocks, current, hx, hf, -, hidle, -, hlast, -, -⟩ :=
    posted_again_iff_unheard r 1 unheardFirst
  obtain ⟨block, rfl⟩ : ∃ block, blocks = [block] := List.length_eq_one_iff.mp hf.length_eq.symm
  have hblock : s.exchanges = block := by
    rw [hx, hidle rfl]
    simp
  obtain ⟨first, last, hs, hfirst, hsecond⟩ :
      ∃ first last, s.exchanges = [first, last] ∧ first.2.isAccepted = true ∧
        last.2.isAccepted = true := ⟨_, _, rfl, rfl, rfl⟩
  have hb : block = [first, last] := hblock.symm.trans hs
  refine ⟨first, last, hs, hfirst, fun h => ?_, hsecond, ?_⟩
  · cases (hlast block (by simp) [] first [last] hb hfirst).mpr h
  · exact (hlast block (by simp) [first] last [] hb hsecond).mp rfl

/-- Both requests post the one batch there is, and the API accepts both. -/
theorem accepted_more_than_once :
    let m : Measurement := ⟨⟨0, 0⟩, "self", ["queue", "length"], .gauge 3, .metrics⟩
    let r := Delivery.loopback.route (.ofSize 1 0)
    let s := (start 1).run r unheardFirst
    let request := r.delivery.request (r.body ⟨0, 0⟩ [m])
    s.batcher.accepted = [[m]] ∧
      s.exchanges = [(request, .silent (some 200)), (request, .answered .zero 200 .never)] ∧
      ¬ (s.exchanges.filter (·.2.isAccepted)).length ≤ 1 := by
  intro m r s request
  exact ⟨rfl, rfl, by decide⟩

end Transit

end MetricAgent.Http
