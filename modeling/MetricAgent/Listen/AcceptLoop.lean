/-!
The loop that accepts connections, and how it is stopped. Stopping stores one wake-up, which the
loop takes the next time it waits; so a stop is never lost, whatever the loop does at that moment.
-/

namespace MetricAgent.Listen

/-- What the loop does. -/
inductive LoopStage where
  /-- It waits for a connection or a wake-up, whichever comes first. -/
  | waiting
  /-- It hands a connection to a task. -/
  | handling
  /-- It pauses after an error. -/
  | pausing
  /-- It has left, and what it listened on is to be cleared away. -/
  | leaving
  | gone
  deriving DecidableEq, Repr

/-- The loop and what it shares with those who stop it. -/
structure AcceptLoop where
  stage : LoopStage
  /-- A stop has been asked for. -/
  isClosing : Bool
  /-- A wake-up is stored. -/
  hasWakeUp : Bool
  deriving DecidableEq, Repr

inductive LoopStep where
  | stop
  | accept
  /-- Accepting fails. -/
  | fail
  | wake
  | handle
  | resume
  | clear
  deriving DecidableEq, Repr

namespace AcceptLoop

def start : AcceptLoop := ⟨.waiting, false, false⟩

/-- Asks the loop to stop. Only the first call stores a wake-up. -/
def stop (a : AcceptLoop) : AcceptLoop :=
  if a.isClosing then a else { a with isClosing := true, hasWakeUp := true }

/-- A step of the loop or of those who stop it, if it can be taken. -/
def step (a : AcceptLoop) : LoopStep → Option AcceptLoop
  | .stop => some a.stop
  | .accept => if a.stage = .waiting then some { a with stage := .handling } else none
  | .fail =>
    if a.stage = .waiting then
      some { a with stage := if a.isClosing then .leaving else .pausing }
    else none
  | .wake =>
    if a.stage = .waiting && a.hasWakeUp then
      some { a with stage := .leaving, hasWakeUp := false }
    else none
  | .handle => if a.stage = .handling then some { a with stage := .waiting } else none
  | .resume => if a.stage = .pausing then some { a with stage := .waiting } else none
  | .clear => if a.stage = .leaving then some { a with stage := .gone } else none

/-- Takes steps one after the other, passing over those that cannot be taken. -/
def run (a : AcceptLoop) (steps : List LoopStep) : AcceptLoop :=
  steps.foldl (fun a s => (a.step s).getD a) a

/-- Connections are accepted sooner or later. -/
def isServing (a : AcceptLoop) : Bool := a.stage ≠ .leaving && a.stage ≠ .gone

end AcceptLoop

end MetricAgent.Listen
