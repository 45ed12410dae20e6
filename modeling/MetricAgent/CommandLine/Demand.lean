import MetricAgent.CommandLine.Start
import MetricAgent.Http.Transit

/-!
What an agent asks of its runtime: queues, ticks, buffers and instants. A runtime has bounds, and a
part of the agent that asks for more breaks down.
-/

namespace MetricAgent

open Config Http CommandLine

/-- Something that is asked of the runtime. -/
inductive Demand where
  /-- A queue with room for a number of elements. -/
  | queue (capacity : Nat)
  /-- Ticks at an interval. -/
  | ticks (interval : Nat)
  /-- A buffer for a number of elements of some size in bytes. -/
  | buffer (elements size : Nat)
  /-- The instant some time after another one. -/
  | instant (start lasts : Nat)
  deriving DecidableEq, Repr

namespace Demand

/-- The most bytes that a buffer can have. -/
def maxBytes : Nat := 9223372036854775807

/-- The seconds from which on a clock shows no instants. -/
def clockBound : Nat := 9223372036854775808

/-- The runtime can do what is asked of it. -/
def isMet : Demand → Bool
  | queue n => 0 < n && n < capacityBound
  | ticks interval => 0 < interval
  | buffer n size => n * size ≤ maxBytes
  | instant start lasts => (start + lasts) / Time.Span.perSecond < clockBound

end Demand

/-- What an output asks for when it starts. -/
def Output.demands (size : Nat) : Output → List Demand
  | .writer _ => []
  | .sender limits _ => [.queue backlogCapacity, .buffer limits.size size]

/-- What an agent asks for when it starts, if measurements have some size in bytes. -/
def Config.AgentConfig.demands (size : Nat) (c : AgentConfig) (o : Output) : List Demand :=
  [.queue c.channelCapacity.toNat] ++ o.demands size ++ [.ticks c.interval.nanos]

namespace Http.Transit

variable {α : Type}

/-- A step takes the first element of a batch. -/
def begins (s : Transit α) : TransitStep α → Bool
  | .receive => s.batcher.pending.isEmpty
  | _ => false

/--
What the batcher asks for in a step: a deadline for a batch that begins, and a new buffer for one
that is handed off. The clock showed some time when the batcher started.
-/
def demands (r : Route α) (size clock : Nat) (s : Transit α) (x : TransitStep α) : List Demand :=
  match s.step r x with
  | none => []
  | some s' =>
    let handedOff := s'.batcher.handedOff.length - s.batcher.handedOff.length
    (if s.begins x then [.instant (clock + s.batcher.now) r.limits.timeout] else []) ++
      List.replicate handedOff (.buffer r.limits.size size)

/-- Takes steps up to the first one that asks for more than can be had, and tells what that was. -/
def serve (r : Route α) (size clock : Nat) (s : Transit α) :
    List (TransitStep α) → Except Demand (Transit α)
  | [] => .ok s
  | x :: steps =>
    match (s.demands r size clock x).find? fun d => !d.isMet with
    | some d => .error d
    | none => ((s.step r x).getD s).serve r size clock steps

end Http.Transit

end MetricAgent
