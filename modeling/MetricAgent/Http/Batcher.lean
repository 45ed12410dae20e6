import MetricAgent.Queue

/-!
Grouping a stream into batches. A batch is ready when it is full, or some time after its first
element came. A ready batch goes to a backlog of limited length without waiting: it is dropped when
the backlog is full, and cannot be delivered when nobody takes from the backlog any more.

Time is a number of nanoseconds that only moves when told to.
-/

namespace MetricAgent.Http

/-- The batches that may wait for delivery. -/
def backlogCapacity : Nat := 8

/-- When a batch is ready. -/
structure BatchLimits where
  size : Nat
  /-- The nanoseconds that a batch waits after its first element. -/
  timeout : Nat
  size_pos : 0 < size

/-- Limits with a size of at least one. -/
def BatchLimits.ofSize (size timeout : Nat) : BatchLimits :=
  ⟨max size 1, timeout, by omega⟩

/-- A batcher, its backlog, and what became of the batches that it handed off. -/
structure Batcher (α : Type) where
  now : Nat
  pending : List α
  /-- When the elements that are pending are handed off. -/
  deadline : Nat
  backlog : Queue (List α)
  /-- All batches that were handed off, in order, and how the backlog met them. -/
  handedOff : List (List α × Offer)
  /-- The count of batches that found the backlog full. -/
  dropCount : UInt64
  stopped : Bool

namespace Batcher

variable {α : Type}

/-- A batcher at time zero with nothing in it. -/
def start : Batcher α := ⟨0, [], 0, .ofCapacity backlogCapacity, [], 0, false⟩

/-- Hands off what is pending. -/
def handOff (b : Batcher α) : Batcher α :=
  let (offer, backlog) := b.backlog.push b.pending
  { b with
    pending := []
    backlog := backlog
    handedOff := b.handedOff ++ [(b.pending, offer)]
    dropCount := if offer = .full then b.dropCount + 1 else b.dropCount }

/-- The batches that the backlog met in some way, in order. -/
def metWith (b : Batcher α) (o : Offer) : List (List α) :=
  (b.handedOff.filter (·.2 = o)).map Prod.fst

/-- Batches that found the backlog full, in order. -/
def dropped (b : Batcher α) : List (List α) := b.metWith .full

/-- Batches that nobody would have taken, in order. -/
def undeliverable (b : Batcher α) : List (List α) := b.metWith .closed

@[simp] theorem pending_handOff (b : Batcher α) : b.handOff.pending = [] := rfl

@[simp] theorem map_fst_handedOff_handOff (b : Batcher α) :
    b.handOff.handedOff.map Prod.fst = b.handedOff.map Prod.fst ++ [b.pending] := by
  simp [handOff]

/-- Takes an element. The first one of a batch sets the deadline, and the last one hands it off. -/
def receive (l : BatchLimits) (b : Batcher α) (a : α) : Batcher α :=
  let deadline := if b.pending.isEmpty then b.now + l.timeout else b.deadline
  let b := { b with pending := b.pending ++ [a], deadline := deadline }
  if l.size ≤ b.pending.length then b.handOff else b

/-- Takes elements that come at the same time. -/
def receiveAll (l : BatchLimits) (b : Batcher α) (xs : List α) : Batcher α :=
  xs.foldl (receive l) b

/-- The time for what is pending has come by some moment. -/
def isDueAt (b : Batcher α) (t : Nat) : Bool := !b.pending.isEmpty && b.deadline ≤ t

/-- Lets time pass up to some moment. At the deadline what is pending is handed off. -/
def advanceTo (b : Batcher α) (t : Nat) : Batcher α :=
  { if b.isDueAt t then b.handOff else b with now := t }

/-- The stream ends: what is pending is the last batch. -/
def close (b : Batcher α) : Batcher α :=
  if b.stopped then b
  else { if b.pending.isEmpty then b else b.handOff with stopped := true }

/-- Takes a batch from the backlog. -/
def take (b : Batcher α) : Option (List α) × Batcher α :=
  match b.backlog.pop with
  | (batch, q) => (batch, { b with backlog := q })

/-- Nobody takes from the backlog any more. -/
def abandon (b : Batcher α) : Batcher α := { b with backlog := b.backlog.close }

end Batcher

end MetricAgent.Http
