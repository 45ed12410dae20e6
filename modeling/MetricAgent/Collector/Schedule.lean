import MetricAgent.Collector.Tick

/-!
When ticks start. Deadlines are multiples of an interval. A tick starts at its deadline, or at the
end of the tick before it if that is later; after a tick that started late, deadlines that have
passed are skipped, so that no tick is made up for. Times are nanoseconds from the start.
-/

namespace MetricAgent.Collector

open Time

/-- A tick that starts later than this after its deadline is late. -/
def lateness : Nat := 5 * Time.Span.perMilli

/-- A deadline and the start of the tick for it. -/
structure TickTime where
  deadline : Nat
  start : Nat
  deriving DecidableEq, Repr

namespace TickTime

def first : TickTime := ⟨0, 0⟩

/-- The next deadline: the next multiple of the interval, after the start if that was late. -/
def nextDeadline (interval : Nat) (t : TickTime) : Nat :=
  if t.deadline + lateness < t.start then
    t.start + interval - (t.start - t.deadline) % interval
  else t.deadline + interval

/-- The tick after one that lasted some time. -/
def next (interval lasts : Nat) (t : TickTime) : TickTime :=
  let deadline := t.nextDeadline interval
  ⟨deadline, max (t.start + lasts) deadline⟩

/-- The ticks of a schedule without end, given how long each one lasts. -/
def nth (interval : Nat) (lasts : Nat → Nat) : Nat → TickTime
  | 0 => first
  | n + 1 => (nth interval lasts n).next interval (lasts n)

end TickTime

namespace Registry

/-- What happened until a stop: when ticks started, what entered the queue and when all ended. -/
structure Ran where
  registry : Registry
  starts : List Nat
  entered : Nat
  ended : Nat

/--
Polls on every tick that starts before a stop. A tick under way is finished first. The last argument
bounds the number of ticks.
-/
def runFrom (interval stop : Nat) (around : Surroundings) (q : Queue Measurement)
    (time : Timestamp) : Nat → TickTime → Registry → Ran
  | 0, _, r => ⟨r, [], 0, stop⟩
  | left + 1, t, r =>
    let polled := r.poll around q time
    let next := t.next interval polled.lasts.nanos
    let entered := polled.tick.entered.length
    if next.start < stop then
      let ran := runFrom interval stop around q time left next polled.registry
      { ran with starts := t.start :: ran.starts, entered := entered + ran.entered }
    else ⟨polled.registry, [t.start], entered, max stop (t.start + polled.lasts.nanos)⟩

/-- Polls on every tick until a stop; deadlines before the stop bound the number of ticks. -/
def run (r : Registry) (interval stop : Nat) (around : Surroundings) (q : Queue Measurement)
    (time : Timestamp) : Ran :=
  r.runFrom interval stop around q time (stop / interval + 1) .first

end Registry

end MetricAgent.Collector
