import MetricAgent.Collector.Registry

/-!
One tick: all collectors are polled at the same time, each by a task of its own, and all share one
bounded queue. A tick is a system of small steps, and a step that would have to wait for room in the
queue cannot be taken. Collectors are counted in any order, and the steps of different tasks may come
in any order too; `Registry.poll` counts by name and takes the steps in the order in which the
collectors are done.

For each collector the count of its ticks enters the queue before its task begins, and its duration
behind all that it sent. The duration of the whole tick is the last of all.
-/

namespace MetricAgent.Collector

open Decimal Time

def schedulerName : String := "scheduler"

/-- The count of the ticks of a collector. -/
def tickCount (time : Timestamp) (name : String) (n : UInt64) : Measurement :=
  ⟨time, schedulerName, ["ticks", name, "count"], .counter n, .none⟩

/-- The duration of something in a tick, in seconds. -/
def tickDuration (time : Timestamp) (name : String) (d : Span) : Measurement :=
  ⟨time, schedulerName, ["duration", name, "seconds"], .floatGauge d.seconds, .seconds⟩

/-- What the duration of the whole tick is called. -/
def wholeTick : String := "all"

/-- What is left of a task. -/
inductive Stage where
  | waiting
  | sending (p : Poll)
  /-- The collector is done, and its duration is still to be sent. -/
  | timing (lasts : Span)
  | ended

/-- The task of one collector, which was counted before the task began. -/
structure Task where
  entry : Entry
  stage : Stage

def Task.name (t : Task) : String := t.entry.name

/-- What the collector does, polled in some surroundings and with some queue. -/
def Entry.poll (e : Entry) (time : Timestamp) (around : Surroundings) (q : Queue Measurement) :
    Poll :=
  e.collector.poll e.ticks.toNat time around q

/-- Who sends something in a tick: a collector, or the scheduler on a collector or on all. -/
inductive Sender where
  | count (name : String)
  | collector (name : String)
  | duration (name : String)
  | whole
  deriving DecidableEq, Repr

/-- The collector that something was sent by or is about. -/
def Sender.collector? : Sender → Option String
  | count name | collector name | duration name => some name
  | whole => none

/-- A tick under way. -/
structure Tick where
  time : Timestamp
  around : Surroundings
  /-- The collectors that have not been counted yet. -/
  uncounted : List Entry
  tasks : List Task
  queue : Queue Measurement
  /-- All that has entered the queue, in order, with its sender. -/
  log : List (Sender × Measurement)
  /-- All that the consumer has taken from the queue, in order. -/
  taken : List Measurement
  failures : List (String × CollectorError)
  /-- How many tasks broke down. -/
  aborted : Nat
  finished : Bool

/-- A step of a tick, or of the consumer of the queue. -/
inductive TickStep where
  /-- One of the collectors that are still to be counted is counted, and its task starts. -/
  | count (collector : Nat)
  | work (task : Nat)
  /-- The tick ends after some time. -/
  | finish (lasts : Span)
  | consume
  deriving DecidableEq, Repr

namespace Tick

def start (time : Timestamp) (around : Surroundings) (entries : List Entry)
    (queue : Queue Measurement) : Tick :=
  ⟨time, around, entries, [], queue, [], [], [], 0, false⟩

/-- All that has entered the queue, in order. -/
def entered (t : Tick) : List Measurement := t.log.map Prod.snd

/-- Sends a measurement, unless it has to wait; nothing enters a closed queue. -/
def send (t : Tick) (who : Sender) (m : Measurement) : Option (Bool × Tick) :=
  match t.queue.push m with
  | (.accepted, q) => some (true, { t with queue := q, log := t.log ++ [(who, m)] })
  | (.closed, _) => some (false, t)
  | (.full, _) => none

def setStage (t : Tick) (i : Nat) (e : Entry) (s : Stage) : Tick :=
  { t with tasks := t.tasks.set i ⟨e, s⟩ }

def fail (t : Tick) (name : String) (e : CollectorError) : Tick :=
  { t with failures := t.failures ++ [(name, e)] }

/-- The next step of a task. -/
def work (t : Tick) (i : Nat) : Option Tick :=
  match t.tasks[i]? with
  | none => none
  | some ⟨e, .waiting⟩ => some (t.setStage i e (.sending (e.poll t.time t.around t.queue)))
  | some ⟨e, .sending p⟩ =>
    match p.readings with
    | m :: ms => (t.send (.collector e.name) m).map fun (isIn, t) =>
      if isIn then t.setStage i e (.sending { p with readings := ms })
      else (t.fail e.name .queueClosed).setStage i e (.timing p.lasts)
    | [] =>
      some <| match p.ending with
        | .done => t.setStage i e (.timing p.lasts)
        | .failed error => (t.fail e.name error).setStage i e (.timing p.lasts)
        | .aborted => { t.setStage i e .ended with aborted := t.aborted + 1 }
  | some ⟨e, .timing lasts⟩ =>
    (t.send (.duration e.name) (tickDuration t.time e.name lasts)).map fun (_, t) =>
      t.setStage i e .ended
  | some ⟨_, .ended⟩ => none

/-- Counts one of the collectors that are left and starts its task. -/
def count (t : Tick) (i : Nat) : Option Tick :=
  match t.uncounted[i]? with
  | none => none
  | some e =>
    (t.send (.count e.name) (tickCount t.time e.name (e.ticks + 1))).map fun (_, t) =>
      { t with
        uncounted := t.uncounted.eraseIdx i
        tasks := t.tasks ++ [⟨e, .waiting⟩] }

def isEnded (t : Task) : Bool := match t.stage with | .ended => true | _ => false

/-- Sends the duration of the whole tick when all tasks have ended. -/
def finish (t : Tick) (lasts : Span) : Option Tick :=
  if t.uncounted.isEmpty && t.tasks.all isEnded && !t.finished then
    (t.send .whole (tickDuration t.time wholeTick lasts)).map fun (_, t) =>
      { t with finished := true }
  else none

/-- A step, if it can be taken. -/
def step (t : Tick) : TickStep → Option Tick
  | .count i => t.count i
  | .work i => t.work i
  | .finish lasts => t.finish lasts
  | .consume =>
    match t.queue.pop with
    | (some m, q) => some { t with queue := q, taken := t.taken ++ [m] }
    | (none, _) => none

/-- Takes steps one after the other, passing over those that cannot be taken. -/
def run (t : Tick) (steps : List TickStep) : Tick :=
  steps.foldl (fun t s => (t.step s).getD t) t

end Tick

namespace Registry

/-- The steps of a task that has so many readings to send: it begins, sends, ends, is timed. -/
def stepsOf (readings task : Nat) : List TickStep := List.replicate (readings + 3) (.work task)

/-- The polls of a tick, with the numbers of their tasks, in the order in which they are done. -/
def inOrder (polls : List Poll) : List (Poll × Nat) :=
  polls.zipIdx.mergeSort fun p q => p.1.lasts.nanos ≤ q.1.lasts.nanos

/-- What happened in a tick, how long it took, and the registry after it. -/
structure Polled where
  registry : Registry
  tick : Tick
  lasts : Span

/-- Polls all collectors at a tick. -/
def poll (r : Registry) (around : Surroundings) (q : Queue Measurement) (time : Timestamp) :
    Polled :=
  let polls := r.entries.map fun e => e.poll time around q
  let lasts := (polls.map (·.lasts)).foldl Span.longer .zero
  let works := (inOrder polls).flatMap fun (p, i) => stepsOf p.readings.length i
  let steps := r.entries.map (fun _ => TickStep.count 0) ++ works ++ [.finish lasts]
  { registry := r.advance
    tick := (Tick.start time around r.entries q).run steps
    lasts := lasts }

end Registry

end MetricAgent.Collector
