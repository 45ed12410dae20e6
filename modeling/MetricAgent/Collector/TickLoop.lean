import MetricAgent.Collector.Schedule

/-!
The loop that polls on every tick until a stop, as a system of small steps. It waits for the next
deadline and for the stop at once and goes on with what comes first; if both have come, it may take
either. A poll that has begun is not broken off. Times are nanoseconds from the start.
-/

namespace MetricAgent.Collector

namespace TickLoop

/-- What the loop does. -/
inductive Stage where
  /-- It waits for a deadline, or for a stop. -/
  | waiting (deadline : Nat)
  | polling (t : TickTime)
  | stopped
  deriving DecidableEq, Repr

inductive Step where
  /-- The next tick starts. -/
  | start
  /-- The poll of a tick ends. -/
  | finish
  | stop
  deriving DecidableEq, Repr

end TickLoop

/-- The loop, with the ticks whose polls have ended. -/
structure TickLoop where
  now : Nat
  stage : TickLoop.Stage
  ticks : List TickTime
  deriving DecidableEq, Repr

namespace TickLoop

/-- At the start the first deadline has come. -/
def initial : TickLoop := ⟨0, .waiting TickTime.first.deadline, []⟩

/-- The next tick starts, unless a stop comes before it. -/
def start (stop : Option Nat) (l : TickLoop) : Option TickLoop :=
  match l.stage with
  | .waiting deadline =>
    let t : TickTime := ⟨deadline, max l.now deadline⟩
    if stop.all fun s => t.start ≤ max l.now s then
      some { l with now := t.start, stage := .polling t }
    else none
  | _ => none

/-- The poll of a tick ends, and the next deadline is set. -/
def finish (interval : Nat) (lasts : Nat → Nat) (l : TickLoop) : Option TickLoop :=
  match l.stage with
  | .polling t =>
    some
      { now := t.start + lasts l.ticks.length
        stage := .waiting (t.nextDeadline interval)
        ticks := l.ticks ++ [t] }
  | _ => none

/-- The loop ends when a stop has come, unless a deadline comes before it. -/
def halt (stop : Option Nat) (l : TickLoop) : Option TickLoop :=
  match l.stage, stop with
  | .waiting deadline, some s =>
    if max l.now s ≤ max l.now deadline then
      some { l with now := max l.now s, stage := .stopped }
    else none
  | _, _ => none

/-- A step, if it can be taken, where polls last as told and a stop comes at some time or never. -/
def step (interval : Nat) (lasts : Nat → Nat) (stop : Option Nat) (l : TickLoop) :
    Step → Option TickLoop
  | .start => l.start stop
  | .finish => l.finish interval lasts
  | .stop => l.halt stop

/-- Takes steps one after the other, passing over those that cannot be taken. -/
def run (interval : Nat) (lasts : Nat → Nat) (stop : Option Nat) (l : TickLoop)
    (steps : List Step) : TickLoop :=
  steps.foldl (fun l x => (l.step interval lasts stop x).getD l) l

end TickLoop

end MetricAgent.Collector
