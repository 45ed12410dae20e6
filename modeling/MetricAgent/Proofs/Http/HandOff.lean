import Mathlib.Data.List.Basic
import MetricAgent.Http.Batcher

/-!
What a batcher does with what it receives: nothing is lost or reordered before a hand-off, a batch
is never empty and never too large, and it is dropped just when the backlog is full.
-/

namespace MetricAgent.Http.Batcher

variable {α : Type} {l : BatchLimits} {b : Batcher α}

/-- All batches that were handed off, in order. -/
def batches (b : Batcher α) : List (List α) := b.handedOff.map Prod.fst

/-- All elements that were received, in order. -/
def received (b : Batcher α) : List α := b.batches.flatten ++ b.pending

/-- The batches that the backlog took, in order. -/
def accepted (b : Batcher α) : List (List α) := b.metWith .accepted

/-- A batcher with one more element pending. -/
def put (l : BatchLimits) (b : Batcher α) (a : α) : Batcher α :=
  { b with
    pending := b.pending ++ [a]
    deadline := if b.pending.isEmpty then b.now + l.timeout else b.deadline }

lemma receive_eq (l : BatchLimits) (b : Batcher α) (a : α) :
    b.receive l a = if l.size ≤ (b.put l a).pending.length then (b.put l a).handOff
      else b.put l a := rfl

/-- At the end nothing is left to do, or there is no last batch, or it is handed off. -/
lemma close_cases (b : Batcher α) :
    b.close = b ∨ b.pending = [] ∧ b.close = { b with stopped := true } ∨
      b.pending ≠ [] ∧ b.close = { b.handOff with stopped := true } := by
  unfold close
  cases hs : b.stopped with
  | true => exact Or.inl rfl
  | false =>
    cases hp : b.pending with
    | nil => exact Or.inr (Or.inl ⟨rfl, by simp [hp]⟩)
    | cons a rest => exact Or.inr (Or.inr ⟨by simp, by simp⟩)

lemma handOff_of_room (ho : b.backlog.isOpen = true) (hr : b.backlog.hasRoom = true) :
    b.handOff =
      { b with
        pending := []
        backlog := { b.backlog with items := b.backlog.items ++ [b.pending] }
        handedOff := b.handedOff ++ [(b.pending, .accepted)] } := by
  simp [handOff, Queue.push_of_room _ ho hr]

lemma handOff_of_full (ho : b.backlog.isOpen = true) (hr : b.backlog.hasRoom = false) :
    b.handOff =
      { b with
        pending := []
        handedOff := b.handedOff ++ [(b.pending, .full)]
        dropCount := b.dropCount + 1 } := by
  simp [handOff, Queue.push_of_full _ ho hr]

/-! ### Order -/

@[simp] lemma received_put (a : α) : (b.put l a).received = b.received ++ [a] := by
  simp [received, put, batches]

@[simp] lemma received_handOff : b.handOff.received = b.received := by
  simp [received, batches]

lemma received_receive (a : α) : (b.receive l a).received = b.received ++ [a] := by
  rw [receive_eq]
  split <;> simp

lemma received_close : b.close.received = b.received := by
  rcases b.close_cases with h | ⟨-, h⟩ | ⟨-, h⟩
  · rw [h]
  · rw [h]
    rfl
  · rw [h]
    exact received_handOff

/-! ### The backlog -/

/-- The backlog grew at its end by the batches that it took. -/
def Extends (b b' : Batcher α) : Prop :=
  ∃ bs, b'.accepted = b.accepted ++ bs ∧ b'.backlog.items = b.backlog.items ++ bs

lemma Extends.refl (b : Batcher α) : b.Extends b := ⟨[], by simp, by simp⟩

lemma extends_handOff (ho : b.backlog.isOpen = true) : b.Extends b.handOff := by
  cases hr : b.backlog.hasRoom with
  | true =>
    rw [handOff_of_room ho hr]
    exact ⟨[b.pending], by simp [accepted, metWith], rfl⟩
  | false =>
    rw [handOff_of_full ho hr]
    exact ⟨[], by simp [accepted, metWith], by simp⟩

lemma extends_receive (ho : b.backlog.isOpen = true) (a : α) : b.Extends (b.receive l a) := by
  rw [receive_eq]
  split
  · exact extends_handOff (b := b.put l a) ho
  · exact .refl b

lemma extends_close (ho : b.backlog.isOpen = true) : b.Extends b.close := by
  rcases b.close_cases with h | ⟨-, h⟩ | ⟨-, h⟩
  · rw [h]
    exact .refl b
  · rw [h]
    exact .refl b
  · rw [h]
    exact extends_handOff ho

/-! ### Sizes and drops -/

/-- A batcher whose backlog is open and whose batches are neither empty nor too large. -/
structure Sound (l : BatchLimits) (b : Batcher α) : Prop where
  isOpen : b.backlog.isOpen = true
  capacity : b.backlog.capacity = backlogCapacity
  length_le : b.backlog.length ≤ backlogCapacity
  sizes : ∀ batch ∈ b.batches, batch ≠ [] ∧ batch.length ≤ l.size
  met : ∀ h ∈ b.handedOff, h.2 = .accepted ∨ h.2 = .full
  dropCount : b.dropCount = UInt64.ofNat b.dropped.length

/-- At most one batch was handed off, and dropped just when the backlog was full. -/
def HandsOff (b b' : Batcher α) : Prop :=
  b'.handedOff = b.handedOff ∨
    ∃ batch offer, b'.handedOff = b.handedOff ++ [(batch, offer)] ∧
      (offer = .full ↔ b.backlog.length = backlogCapacity) ∧ b'.pending = []

lemma sound_start : (start : Batcher α).Sound l where
  isOpen := rfl
  capacity := rfl
  length_le := Nat.zero_le _
  sizes := by simp [batches, start]
  met := by simp [start]
  dropCount := rfl

lemma Sound.hasRoom_iff (h : b.Sound l) :
    b.backlog.hasRoom = false ↔ b.backlog.length = backlogCapacity := by
  have := h.length_le
  rw [Queue.hasRoom, h.capacity, decide_eq_false_iff_not]
  omega

lemma Sound.handOff (h : b.Sound l) (hne : b.pending ≠ []) (hle : b.pending.length ≤ l.size) :
    b.handOff.Sound l := by
  have hsizes : ∀ batch ∈ b.batches ++ [b.pending], batch ≠ [] ∧ batch.length ≤ l.size := by
    intro batch hb
    rcases List.mem_append.mp hb with hb | hb
    · exact h.sizes batch hb
    · rw [List.mem_singleton.mp hb]
      exact ⟨hne, hle⟩
  cases hr : b.backlog.hasRoom with
  | true =>
    have hlt : b.backlog.length < backlogCapacity := by
      rw [← h.capacity]
      exact of_decide_eq_true hr
    rw [handOff_of_room h.isOpen hr]
    refine ⟨h.isOpen, h.capacity, ?_, ?_, ?_, ?_⟩
    · rw [Queue.length, List.length_append, List.length_singleton]
      exact hlt
    · simpa [batches] using hsizes
    · intro x hx
      rcases List.mem_append.mp hx with hx | hx
      · exact h.met x hx
      · exact Or.inl (by rw [List.mem_singleton.mp hx])
    · rw [h.dropCount]
      simp [dropped, metWith]
  | false =>
    rw [handOff_of_full h.isOpen hr]
    refine ⟨h.isOpen, h.capacity, h.length_le, ?_, ?_, ?_⟩
    · simpa [batches] using hsizes
    · intro x hx
      rcases List.mem_append.mp hx with hx | hx
      · exact h.met x hx
      · exact Or.inr (by rw [List.mem_singleton.mp hx])
    · change b.dropCount + 1 = _
      rw [h.dropCount]
      simp [dropped, metWith, UInt64.ofNat_add]

lemma Sound.put (h : b.Sound l) (a : α) : (b.put l a).Sound l :=
  ⟨h.isOpen, h.capacity, h.length_le, h.sizes, h.met, h.dropCount⟩

lemma Sound.receive (h : b.Sound l) (hp : b.pending.length < l.size) (a : α) :
    (b.receive l a).Sound l ∧ (b.receive l a).pending.length < l.size := by
  have hput : (b.put l a).pending = b.pending ++ [a] := rfl
  rw [receive_eq]
  split
  next hs =>
    refine ⟨(h.put a).handOff (by simp [hput]) ?_, ?_⟩
    · rw [hput, List.length_append, List.length_singleton]
      omega
    · rw [pending_handOff]
      exact l.size_pos
  next hs => exact ⟨h.put a, by omega⟩

lemma Sound.close (h : b.Sound l) (hp : b.pending.length < l.size) :
    b.close.Sound l ∧ b.close.pending.length < l.size := by
  rcases b.close_cases with hc | ⟨-, hc⟩ | ⟨hne, hc⟩
  · rw [hc]
    exact ⟨h, hp⟩
  · rw [hc]
    exact ⟨⟨h.isOpen, h.capacity, h.length_le, h.sizes, h.met, h.dropCount⟩, hp⟩
  · have hs := h.handOff hne (Nat.le_of_lt hp)
    rw [hc]
    exact ⟨⟨hs.isOpen, hs.capacity, hs.length_le, hs.sizes, hs.met, hs.dropCount⟩, l.size_pos⟩

lemma Sound.handsOff (h : b.Sound l) : b.HandsOff b.handOff := by
  refine Or.inr ⟨b.pending, (b.backlog.push b.pending).1, rfl, ?_, rfl⟩
  rw [← h.hasRoom_iff]
  cases hr : b.backlog.hasRoom with
  | true => simp [Queue.push_of_room _ h.isOpen hr]
  | false => simp [Queue.push_of_full _ h.isOpen hr]

lemma Sound.handsOff_receive (h : b.Sound l) (a : α) : b.HandsOff (b.receive l a) := by
  rw [receive_eq]
  split
  · exact (h.put a).handsOff
  · exact Or.inl rfl

lemma Sound.handsOff_close (h : b.Sound l) : b.HandsOff b.close := by
  rcases b.close_cases with hc | ⟨-, hc⟩ | ⟨-, hc⟩
  · rw [hc]
    exact Or.inl rfl
  · rw [hc]
    exact Or.inl rfl
  · rw [hc]
    exact h.handsOff

end MetricAgent.Http.Batcher
