import MetricAgent.Decimal.Natural

/-!
Bounded queues in the order of arrival. A producer waits while a queue is full; when its consumer is
gone nothing can be put in, and what was waiting is lost.
-/

namespace MetricAgent

/-- A queue with room for a number of elements. -/
structure Queue (α : Type) where
  capacity : Nat
  items : List α
  isOpen : Bool
  deriving Repr

/-- What becomes of an attempt to put an element in. -/
inductive Offer where
  | accepted
  | full
  | closed
  deriving DecidableEq, Repr

namespace Queue

variable {α : Type}

/-- An empty queue. -/
def ofCapacity (n : Nat) : Queue α := ⟨n, [], true⟩

def length (q : Queue α) : Nat := q.items.length

def isEmpty (q : Queue α) : Bool := q.items.isEmpty

def hasRoom (q : Queue α) : Bool := q.length < q.capacity

/-- Puts an element in at the end if the queue is open and has room. -/
def push (q : Queue α) (a : α) : Offer × Queue α :=
  if !q.isOpen then (.closed, q)
  else if q.hasRoom then (.accepted, { q with items := q.items ++ [a] })
  else (.full, q)

theorem push_of_room {q : Queue α} (a : α) (ho : q.isOpen = true) (hr : q.hasRoom = true) :
    q.push a = (.accepted, { q with items := q.items ++ [a] }) := by
  simp [push, ho, hr]

theorem push_of_full {q : Queue α} (a : α) (ho : q.isOpen = true) (hr : q.hasRoom = false) :
    q.push a = (.full, q) := by
  simp [push, ho, hr]

theorem push_of_closed {q : Queue α} (a : α) (ho : q.isOpen = false) :
    q.push a = (.closed, q) := by
  simp [push, ho]

/-- What enters a queue stands at its end, and only an open queue with room lets it in. -/
theorem push_eq_accepted {q q' : Queue α} {a : α} :
    q.push a = (.accepted, q') ↔
      q.isOpen = true ∧ q.hasRoom = true ∧ q' = { q with items := q.items ++ [a] } := by
  cases ho : q.isOpen
  · simp [push_of_closed a ho]
  · cases hr : q.hasRoom
    · simp [push_of_full a ho hr]
    · simp [push_of_room a ho hr, ho, eq_comm]

/-- Takes the first element. -/
def pop (q : Queue α) : Option α × Queue α :=
  match q.items with
  | [] => (none, q)
  | a :: rest => (some a, { q with items := rest })

theorem pop_eq_some {q q' : Queue α} {a : α} :
    q.pop = (some a, q') ↔ ∃ rest, q.items = a :: rest ∧ q' = { q with items := rest } := by
  unfold pop
  split
  next h => simp [h]
  next b rest h =>
    simp only [Prod.mk.injEq, Option.some.injEq, h, List.cons.injEq]
    constructor
    · rintro ⟨rfl, rfl⟩
      exact ⟨rest, ⟨rfl, rfl⟩, rfl⟩
    · rintro ⟨_, ⟨rfl, rfl⟩, rfl⟩
      exact ⟨rfl, rfl⟩

/-- The consumer leaves. -/
def close (q : Queue α) : Queue α := { q with items := [], isOpen := false }

/-- Takes all elements. -/
def drain (q : Queue α) : List α × Queue α := (q.items, { q with items := [] })

/-- Puts elements in while a consumer that keeps up makes room; none if the queue is closed. -/
def pushAll (q : Queue α) (xs : List α) : Option (Queue α) :=
  if q.isOpen then some { q with items := q.items ++ xs }
  else if xs.isEmpty then some q
  else none

/-- The producer's view of a queue, as logs show it. -/
def describe (q : Queue α) : String :=
  "MeasurementSender \x7b len: " ++ Decimal.text q.length ++ ", capacity: " ++
    Decimal.text q.capacity ++ " \x7d"

end Queue

end MetricAgent
