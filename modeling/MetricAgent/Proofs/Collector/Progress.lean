import Mathlib.Algebra.Ring.Nat
import MetricAgent.Proofs.Collector.Rounds

/-!
A tick that is polled comes to its end, in whatever order its tasks and the consumer of the queue
take their steps. As long as it has not finished one of them can take a step, and no sequence of
steps goes on for ever: each one lowers, in this order, the number of collectors to be counted, of
tasks that have not begun, of steps that the others still have to take, or the length of the queue.
-/

namespace MetricAgent.Collector

open Time

/-- Whether a task has yet to begin, as a number. -/
def Stage.toBegin : Stage → Nat
  | .waiting => 1
  | .sending _ | .timing _ | .ended => 0

/-- The steps that a task that has begun still has to take. -/
def Stage.stepsLeft : Stage → Nat
  | .sending p => p.readings.length + 2
  | .timing _ => 1
  | .waiting | .ended => 0

namespace Tick

variable {t t' : Tick} {x : TickStep}

def toBegin (t : Tick) : Nat := (t.tasks.map fun k => k.stage.toBegin).sum

def stepsLeft (t : Tick) : Nat :=
  (t.tasks.map fun k => k.stage.stepsLeft).sum + (!t.finished).toNat

end Tick

/-! ### All ticks -/

/-- Steps of the ticks and of the consumer, but of nobody else. -/
def SchedulerStep.isOwn : SchedulerStep → Bool
  | .within _ _ | .consume => true
  | .register _ | .poll _ _ | .offer _ => false

namespace Scheduler

variable {s s' : Scheduler} {x : SchedulerStep}

/-- What is left of all ticks, and last of the queue. -/
def left (s : Scheduler) : Nat × Nat × Nat × Nat :=
  ((s.ticks.map fun t => t.uncounted.length).sum, (s.ticks.map Tick.toBegin).sum,
    (s.ticks.map Tick.stepsLeft).sum, s.queue.length)

end Scheduler

end MetricAgent.Collector
