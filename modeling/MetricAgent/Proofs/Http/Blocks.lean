import Mathlib.Data.List.Forall2
import MetricAgent.Proofs.Http.Attempts
import MetricAgent.Proofs.Http.Conservation

/-!
The order of the requests. They come in blocks, one for each batch in the order of the backlog, and
every waiting batch gets its block, whatever became of those before it.
-/

namespace MetricAgent.Http

open Time

variable {α : Type} {r : Route α}

/-- The replies that a block of exchanges met, by number. -/
def script (block : List (Request × Reply)) (i : Nat) : Reply := (block[i]?).elim .refused Prod.snd

/-- The exchanges of one block post a batch, in a body made once. -/
def Posts (r : Route α) (batch : List α) (block : List (Request × Reply)) : Prop :=
  ∃ now, r.delivery.IsBlock (r.delivery.request (r.body now batch)) block maxAttempts

/-- A block and a result are what the delivery of a batch comes to on the replies of the block. -/
def Delivered (r : Route α) (f : Finished α) (block : List (Request × Reply)) : Prop :=
  ∃ now, (r.delivery.send (script block) 0 (r.body now f.1)).exchanges = block ∧
    (r.delivery.send (script block) 0 (r.body now f.1)).result = f.2

/-- A batch under delivery after some exchanges: the loop of attempts goes on from there. -/
structure Underway (r : Route α) (b : Sending α) (block : List (Request × Reply)) : Prop where
  left : block.length + b.left + 1 = maxAttempts
  resumes : ∃ now, ∀ replies : Nat → Reply, (∀ i e, block[i]? = some e → replies i = e.2) →
    (r.delivery.send replies 0 (r.body now b.batch)).exchanges = block ++
        (r.delivery.attempts replies b.request b.pause b.left block.length).exchanges ∧
      (r.delivery.send replies 0 (r.body now b.batch)).result =
        (r.delivery.attempts replies b.request b.pause b.left block.length).result

lemma Delivered.posts {f : Finished α} {block : List (Request × Reply)} (h : Delivered r f block) :
    Posts r f.1 block := by
  obtain ⟨now, hb, -⟩ := h
  refine ⟨now, ?_⟩
  have := Delivery.isBlock_send r.delivery (script block) 0 (r.body now f.1)
  rwa [hb] at this

/-- Only a block of all attempts can end with a reply that asks for another. -/
lemma Delivered.length_of_retries {f : Finished α} {block : List (Request × Reply)}
    {e : Request × Reply} (h : Delivered r f block) (he : block.getLast? = some e)
    (hr : r.delivery.Retries e.2) : block.length = maxAttempts := by
  obtain ⟨now, hb, -⟩ := h
  rw [← hb] at he ⊢
  exact Delivery.length_of_getLast_retries he hr

lemma script_append (block rest : List (Request × Reply)) {i : Nat} (h : i < block.length) :
    script (block ++ rest) i = script block i := by
  rw [script, script, List.getElem?_append_left h]

lemma script_append_add (block rest : List (Request × Reply)) (i : Nat) :
    script (block ++ rest) (block.length + i) = script rest i := by
  rw [script, script, List.getElem?_append_right (Nat.le_add_right _ _), Nat.add_sub_cancel_left]

/-- Delivered batches are what the delivery of their bodies one after the other comes to. -/
theorem sendAll_of_delivered {finished : List (Finished α)}
    {blocks : List (List (Request × Reply))} (h : List.Forall₂ (Delivered r) finished blocks)
    {replies : Nat → Reply} {n : Nat}
    (hs : ∀ i < blocks.flatten.length, replies (n + i) = script blocks.flatten i) :
    ∃ bodies, List.Forall₂ (fun f body => ∃ now, body = r.body now f.1) finished bodies ∧
      (r.delivery.sendAll replies n bodies).map Report.exchanges = blocks ∧
      (r.delivery.sendAll replies n bodies).map Report.result = finished.map Prod.snd := by
  induction h generalizing n with
  | nil => exact ⟨[], .nil, rfl, rfl⟩
  | @cons f block finished blocks hd _ ih =>
    obtain ⟨now, hblock, hresult⟩ := hd
    have hsend : r.delivery.send replies n (r.body now f.1) =
        r.delivery.send (script block) 0 (r.body now f.1) := by
      refine Delivery.attempts_congr fun i hi => ?_
      change i < (r.delivery.send (script block) 0 (r.body now f.1)).exchanges.length at hi
      rw [hblock] at hi
      have hall : i < (block :: blocks).flatten.length := by
        rw [List.flatten_cons, List.length_append]
        omega
      rw [hs i hall, List.flatten_cons, script_append block _ hi, Nat.zero_add]
    obtain ⟨bodies, hb, hx, hr⟩ := ih (n := n + block.length) fun i hi => by
      have hall : block.length + i < (block :: blocks).flatten.length := by
        rw [List.flatten_cons, List.length_append]
        omega
      rw [Nat.add_assoc, hs _ hall, List.flatten_cons, script_append_add]
    refine ⟨r.body now f.1 :: bodies, .cons ⟨now, rfl⟩ hb, ?_, ?_⟩
    · rw [Delivery.sendAll, hsend, hblock, List.map_cons, hblock, hx]
    · rw [Delivery.sendAll, hsend, hblock, List.map_cons, hresult, hr, List.map_cons]

lemma Underway.isBlock {b : Sending α} {block : List (Request × Reply)} (h : Underway r b block) :
    ∃ now rest, rest ≠ [] ∧
      r.delivery.IsBlock (r.delivery.request (r.body now b.batch)) (block ++ rest) maxAttempts := by
  obtain ⟨now, hr⟩ := h.resumes
  have hs : ∀ i e, block[i]? = some e → script block i = e.2 := by
    intro i e he
    simp [script, he]
  have hblock := Delivery.isBlock_send r.delivery (script block) 0 (r.body now b.batch)
  rw [(hr _ hs).1] at hblock
  exact ⟨now, _, Delivery.isBlock_attempts.ne_nil, hblock⟩

lemma Underway.posts {b : Sending α} {block : List (Request × Reply)} (h : Underway r b block)
    (hne : block ≠ []) : Posts r b.batch block := by
  obtain ⟨now, rest, hrest, hblock⟩ := h.isBlock
  exact ⟨now, hblock.prefix hne hrest⟩

lemma Underway.retries {b : Sending α} {block : List (Request × Reply)} (h : Underway r b block)
    {e : Request × Reply} (he : e ∈ block) : r.delivery.Retries e.2 := by
  obtain ⟨now, rest, hrest, hblock⟩ := h.isBlock
  exact (hblock.of_append hrest e he).2

lemma underway_nil (r : Route α) (now : Timestamp) (batch : List α) :
    Underway r ⟨batch, r.delivery.request (r.body now batch), maxAttempts - 1,
      r.delivery.backoff⟩ [] :=
  ⟨rfl, now, fun _ _ => ⟨rfl, rfl⟩⟩

section Attempt

variable {b : Sending α} {block : List (Request × Reply)} {reply : Reply}

/-- Replies that agree with a block and one more exchange agree with the block, and then bring the
reply of that exchange. -/
lemma agrees_snoc {q : Request} {replies : Nat → Reply}
    (h : ∀ i e, (block ++ [(q, reply)])[i]? = some e → replies i = e.2) :
    (∀ i e, block[i]? = some e → replies i = e.2) ∧ replies block.length = reply := by
  refine ⟨fun i e he => h i e ?_, h block.length (q, reply) (by simp)⟩
  obtain ⟨hi, -⟩ := List.getElem?_eq_some_iff.mp he
  rw [List.getElem?_append_left hi, he]

lemma Underway.ended {result : Except DeliveryError Unit} (h : Underway r b block)
    (he : r.delivery.ending? b.left reply = some result) :
    Delivered r (b.batch, result) (block ++ [(b.request, reply)]) := by
  obtain ⟨now, hr⟩ := h.resumes
  have hs : ∀ i e, (block ++ [(b.request, reply)])[i]? = some e →
      script (block ++ [(b.request, reply)]) i = e.2 := by
    intro i e hi
    simp [script, hi]
  obtain ⟨hs, hlast⟩ := agrees_snoc hs
  obtain ⟨hx, hres⟩ := hr _ hs
  rw [← hlast] at he
  obtain ⟨hx', -, hres'⟩ := Delivery.attempts_of_ending b.request b.pause he
  refine ⟨now, ?_, ?_⟩
  · rw [hx, hx', hlast]
  · rw [hres, hres']

lemma Underway.again {left : Nat} (h : Underway r b block)
    (he : r.delivery.ending? b.left reply = none) (hl : b.left = left + 1) :
    Underway r { b with left := left, pause := b.pause.double }
      (block ++ [(b.request, reply)]) := by
  obtain ⟨now, hr⟩ := h.resumes
  refine ⟨?_, now, fun replies hs => ?_⟩
  · have := h.left
    rw [List.length_append, List.length_singleton]
    dsimp only
    omega
  · obtain ⟨hs, hlast⟩ := agrees_snoc hs
    obtain ⟨hx, hres⟩ := hr replies hs
    rw [hl, ← hlast] at he
    obtain ⟨hx', -, hres'⟩ := Delivery.attempts_of_again b.request b.pause he
    rw [hl] at hx hres
    rw [hlast] at hx'
    rw [List.length_append, List.length_singleton]
    constructor
    · rw [hx, hx', List.append_assoc]
      rfl
    · rw [hres, hres']

end Attempt

namespace Transit

variable {s s' : Transit α}

/-- The exchanges so far, in blocks: one for each finished batch, and that of the batch under
delivery. -/
structure Traced (r : Route α) (s : Transit α) (blocks : List (List (Request × Reply)))
    (current : List (Request × Reply)) : Prop where
  exchanges : s.exchanges = blocks.flatten ++ current
  finished : List.Forall₂ (Delivered r) s.finished blocks
  sending : ∀ b, s.sending = some b → Underway r b current
  idle : s.sending = none → current = []

lemma traced_start (r : Route α) (capacity : Nat) : (start capacity).Traced r [] [] :=
  ⟨rfl, .nil, by simp [start], fun _ => rfl⟩

lemma Traced.moves {blocks : List (List (Request × Reply))} {current : List (Request × Reply)}
    (h : s.Traced r blocks current) (hm : Moves r s s') :
    ∃ blocks current, s'.Traced r blocks current := by
  cases hm with
  | take now batch rest idle items =>
    obtain rfl := h.idle idle
    refine ⟨blocks, [], h.exchanges, h.finished, ?_, fun hs => by cases hs⟩
    intro b hb
    cases hb
    exact underway_nil r now batch
  | ended b reply result sending ending =>
    have hd := (h.sending b sending).ended ending
    refine ⟨blocks ++ [current ++ [(b.request, reply)]], [], ?_, ?_, ?_, fun _ => rfl⟩
    · change s.exchanges ++ _ = _
      rw [h.exchanges]
      simp
    · exact List.rel_append h.finished (.cons hd .nil)
    · intro b hb
      cases hb
  | again b reply left sending ending more =>
    have hu := (h.sending b sending).again ending more
    refine ⟨blocks, current ++ [(b.request, reply)], ?_, h.finished, ?_, fun hs => by cases hs⟩
    · change s.exchanges ++ _ = _
      rw [h.exchanges, List.append_assoc]
    · intro b' hb'
      cases hb'
      exact hu
  | _ => exact ⟨blocks, current, h.exchanges, h.finished, h.sending, h.idle⟩

lemma Traced.delivered {blocks : List (List (Request × Reply))} {current : List (Request × Reply)}
    (h : s.Traced r blocks current) {block : List (Request × Reply)} (hb : block ∈ blocks) :
    ∃ f ∈ s.finished, Delivered r f block := by
  obtain ⟨hl, hd⟩ := List.forall₂_iff_get.mp h.finished
  obtain ⟨i, hi, rfl⟩ := List.mem_iff_getElem.mp hb
  rw [← hl] at hi
  exact ⟨_, List.getElem_mem hi, hd i hi _⟩

lemma Traced.current {blocks : List (List (Request × Reply))} {current : List (Request × Reply)}
    (h : s.Traced r blocks current) {b : Sending α} (hb : s.sending = some b) :
    current = [] ∨ Posts r b.batch current := by
  rcases eq_or_ne current [] with hc | hc
  · exact Or.inl hc
  · exact Or.inr ((h.sending b hb).posts hc)

/-- The finished batches were delivered in one go, on all the replies that there were. -/
theorem Traced.sendAll {blocks : List (List (Request × Reply))} {current : List (Request × Reply)}
    (h : s.Traced r blocks current) :
    ∃ bodies, List.Forall₂ (fun f body => ∃ now, body = r.body now f.1) s.finished bodies ∧
      (r.delivery.sendAll (script s.exchanges) 0 bodies).map Report.exchanges = blocks ∧
      (r.delivery.sendAll (script s.exchanges) 0 bodies).map Report.result =
        s.finished.map Prod.snd := by
  refine sendAll_of_delivered h.finished fun i hi => ?_
  rw [h.exchanges, Nat.zero_add, script_append _ _ hi]

/-- What holds whenever all has gone in order. -/
structure Orderly (r : Route α) (s : Transit α) : Prop where
  conserves : s.Conserves r
  traced : ∃ blocks current, s.Traced r blocks current

lemma Orderly.moves (h : s.Orderly r) (hm : Moves r s s') : s'.Orderly r := by
  obtain ⟨blocks, current, ht⟩ := h.traced
  exact ⟨h.conserves.moves hm, ht.moves hm⟩

lemma orderly_run (r : Route α) (capacity : Nat) (steps : List (TransitStep α)) :
    ((start capacity).run r steps).Orderly r :=
  run_keeps Orderly.moves ⟨conserves_start r capacity, [], [], traced_start r capacity⟩ steps

end Transit

end MetricAgent.Http
