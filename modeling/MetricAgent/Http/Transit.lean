import MetricAgent.Http.Batcher
import MetricAgent.Http.Delivery

/-!
The way from the producers to the API, as a system of small steps: producers put elements into a
shared queue, a batcher groups them, and the batches of its backlog are delivered one after the
other. The steps of the three may come in any order; a step that would have to wait cannot be taken.
Nothing waits for the delivery but the backlog.
-/

namespace MetricAgent.Http

open Time

/-- How batches are made and delivered. -/
structure Route (α : Type) where
  limits : BatchLimits
  delivery : Delivery
  /-- The body that stands for a batch whose delivery begins at some instant. -/
  body : Timestamp → List α → String

/-- Measurements by a delivery, each batch in the body that it has there. -/
def Delivery.route (d : Delivery) (limits : BatchLimits) : Route Measurement :=
  ⟨limits, d, d.bodyOf⟩

/-- A batch under delivery. -/
structure Sending (α : Type) where
  batch : List α
  request : Request
  /-- How many attempts may follow the next one. -/
  left : Nat
  /-- The pause after the next attempt. -/
  pause : Span

abbrev Finished (α : Type) := List α × Except DeliveryError Unit

/-- Where everything is on its way, and what has been said to the API. -/
structure Transit (α : Type) where
  queue : Queue α
  /-- All that has entered the queue, in order. -/
  entered : List α
  /-- All producers are gone. -/
  isEnding : Bool
  batcher : Batcher α
  sending : Option (Sending α)
  finished : List (Finished α)
  exchanges : List (Request × Reply)
  /-- The pauses between the requests of one batch, in order. -/
  pauses : List Span

inductive TransitStep (α : Type) where
  /-- A producer puts an element into the queue. -/
  | offer (a : α)
  /-- The last producer leaves. -/
  | leave
  /-- The batcher takes an element. -/
  | receive
  /-- Time passes up to some moment, but not beyond a deadline. -/
  | pass (t : Nat)
  /-- What is pending is handed off at its deadline. -/
  | fire
  /-- The batcher ends, when nothing can come any more. -/
  | stop
  /-- The delivery takes the next batch, at some instant. -/
  | take (now : Timestamp)
  /-- The delivery makes a request. -/
  | attempt (reply : Reply)

namespace Transit

variable {α : Type}

/-- Nothing is under way, and the queue has some capacity. -/
def start (capacity : Nat) : Transit α :=
  ⟨.ofCapacity capacity, [], false, .start, none, [], [], []⟩

/-- An element enters the queue, if there is room. -/
def offer (s : Transit α) (a : α) : Option (Transit α) :=
  match s.isEnding, s.queue.push a with
  | false, (.accepted, q) => some { s with queue := q, entered := s.entered ++ [a] }
  | _, _ => none

/-- The batcher takes the first element of the queue. -/
def receive (l : BatchLimits) (s : Transit α) : Option (Transit α) :=
  match s.batcher.stopped, s.queue.pop with
  | false, (some a, q) => some { s with queue := q, batcher := s.batcher.receive l a }
  | _, _ => none

/-- Time passes up to a moment that is not past, and not beyond a deadline. -/
def pass (s : Transit α) (t : Nat) : Option (Transit α) :=
  let b := s.batcher
  if b.now ≤ t && (b.pending.isEmpty || t ≤ b.deadline) then
    some { s with batcher := { b with now := t } }
  else none

/-- Takes the first batch of the backlog, if no other is under delivery. Its body is made once. -/
def take (r : Route α) (s : Transit α) (now : Timestamp) : Option (Transit α) :=
  match s.sending, s.batcher.take with
  | none, (some batch, b) =>
    some
      { s with
        batcher := b
        sending := some ⟨batch, r.delivery.request (r.body now batch), maxAttempts - 1,
          r.delivery.backoff⟩ }
  | _, _ => none

/-- The delivery of a batch ends. -/
def finish (s : Transit α) (batch : List α) (result : Except DeliveryError Unit) : Transit α :=
  { s with sending := none, finished := s.finished ++ [(batch, result)] }

/-- Makes a request for the batch under delivery. -/
def attempt (d : Delivery) (s : Transit α) (reply : Reply) : Option (Transit α) :=
  s.sending.map fun b =>
    let s := { s with exchanges := s.exchanges ++ [(b.request, reply)] }
    match d.outcome reply with
    | .delivered => s.finish b.batch (.ok ())
    | .rejected status body => s.finish b.batch (.error (.rejected status body))
    | .retry reason =>
      match b.left with
      | 0 => s.finish b.batch (.error (.exhausted maxAttempts reason))
      | left + 1 =>
        { s with
          sending := some { b with left := left, pause := b.pause.double }
          pauses := s.pauses ++ [b.pause] }

/-- A step, if it can be taken. -/
def step (r : Route α) (s : Transit α) : TransitStep α → Option (Transit α)
  | .offer a => s.offer a
  | .leave => some { s with isEnding := true }
  | .receive => s.receive r.limits
  | .pass t => s.pass t
  | .fire =>
    if s.batcher.isDueAt s.batcher.now then some { s with batcher := s.batcher.handOff } else none
  | .stop =>
    if s.isEnding && s.queue.isEmpty then some { s with batcher := s.batcher.close } else none
  | .take now => s.take r now
  | .attempt reply => s.attempt r.delivery reply

/-- Takes steps one after the other, passing over those that cannot be taken. -/
def run (r : Route α) (s : Transit α) (steps : List (TransitStep α)) : Transit α :=
  steps.foldl (fun s x => (s.step r x).getD s) s

end Transit

end MetricAgent.Http
