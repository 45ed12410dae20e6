import MetricAgent.Collector.Tick

/-!
Ticks one after the other, as a system of small steps. A tick is polled when the one before it has
finished, and every tick that was ever polled keeps its tasks, so that nothing but the tasks
themselves keeps an old tick from going on. All ticks share one queue, which others may use too.
-/

namespace MetricAgent.Collector

open Time

/-- A registry, the ticks in which it was polled, and the queue that all of them share. -/
structure Scheduler where
  registry : Registry
  queue : Queue Measurement
  /-- All that has entered the queue, in order, with its tick and its sender if a tick sent it. -/
  passed : List (Option (Nat × Sender) × Measurement)
  /-- All that the consumer has taken from the queue, in order. -/
  taken : List Measurement
  ticks : List Tick

inductive SchedulerStep where
  | register (c : Collector)
  | poll (time : Timestamp) (around : Surroundings)
  /-- A tick takes a step, whether it is the last one or not. -/
  | within (tick : Nat) (x : TickStep)
  /-- A producer outside of all ticks puts a measurement into the queue. -/
  | offer (m : Measurement)
  | consume

namespace Scheduler

def start (capacity : Nat) : Scheduler := ⟨.empty, .ofCapacity capacity, [], [], []⟩

/-- All that has entered the queue in a tick, with the number of the tick and its sender. -/
def log (s : Scheduler) : List (Nat × Sender × Measurement) :=
  s.passed.filterMap fun (origin, m) => origin.map fun (n, who) => (n, who, m)

/-- No tick is under way. -/
def isIdle (s : Scheduler) : Bool := s.ticks.all Tick.finished

/-- Lets a tick take a step on the shared queue. -/
def within (s : Scheduler) (n : Nat) (x : TickStep) : Option Scheduler := do
  let t ← s.ticks[n]?
  let t' ← { t with queue := s.queue }.step x
  some
    { s with
      queue := t'.queue
      passed := s.passed ++ (t'.log.drop t.log.length).map fun (who, m) => (some (n, who), m)
      taken := s.taken ++ t'.taken.drop t.taken.length
      ticks := s.ticks.set n t' }

/-- A step, if it can be taken. Nothing is registered or polled while a tick is under way. -/
def step (s : Scheduler) : SchedulerStep → Option Scheduler
  | .register c => if s.isIdle then some { s with registry := s.registry.register c } else none
  | .poll time around =>
    if s.isIdle then
      some
        { s with
          registry := s.registry.advance
          ticks := s.ticks ++ [.start time around s.registry.entries s.queue] }
    else none
  | .within n x => s.within n x
  | .offer m =>
    match s.queue.push m with
    | (.accepted, q) => some { s with queue := q, passed := s.passed ++ [(none, m)] }
    | _ => none
  | .consume =>
    match s.queue.pop with
    | (some m, q) => some { s with queue := q, taken := s.taken ++ [m] }
    | (none, _) => none

/-- Takes steps one after the other, passing over those that cannot be taken. -/
def run (s : Scheduler) (steps : List SchedulerStep) : Scheduler :=
  steps.foldl (fun s x => (s.step x).getD s) s

end Scheduler

end MetricAgent.Collector
