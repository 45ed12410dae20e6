import MetricAgent.Listen.AcceptLoop

/-!
Calls that stop the loop, in steps of their own; a listener that is dropped makes such a call too. A
call sets the flag, and the one that finds it not set yet stores a wake-up after that. The loop and
other calls may take any steps in between. A call that runs through does what `AcceptLoop.stop` does.
-/

namespace MetricAgent.Listen

/-- What a call that stops the loop does next. -/
inductive StopCall where
  /-- It sets the flag. -/
  | setting
  /-- It was the first to set the flag, and stores a wake-up. -/
  | waking
  | returned
  deriving DecidableEq, Repr

/-- The loop with all calls that stop it. -/
structure StoppableLoop where
  loop : AcceptLoop
  calls : List StopCall
  /-- The calls that have set the flag, in the order in which they did. -/
  setters : List Nat
  /-- The calls that have stored a wake-up, in the order in which they did. -/
  wakers : List Nat
  deriving DecidableEq, Repr

inductive CallStep where
  /-- Another call begins. -/
  | begin
  | set (call : Nat)
  | wake (call : Nat)
  /-- The loop takes a step of its own. -/
  | own (s : LoopStep)
  deriving DecidableEq, Repr

namespace StoppableLoop

/-- No calls yet. -/
def start : StoppableLoop := ⟨.start, [], [], []⟩

/-- A call sets the flag, and returns at once if it was set. -/
def set (a : StoppableLoop) (i : Nat) : Option StoppableLoop :=
  if a.calls[i]? = some .setting then
    some
      { a with
        loop := { a.loop with isClosing := true }
        calls := a.calls.set i (if a.loop.isClosing then .returned else .waking)
        setters := a.setters ++ [i] }
  else none

/-- A call stores a wake-up. -/
def wake (a : StoppableLoop) (i : Nat) : Option StoppableLoop :=
  if a.calls[i]? = some .waking then
    some
      { a with
        loop := { a.loop with hasWakeUp := true }
        calls := a.calls.set i .returned
        wakers := a.wakers ++ [i] }
  else none

/-- A step of a call or of the loop, if it can be taken. -/
def step (a : StoppableLoop) : CallStep → Option StoppableLoop
  | .begin => some { a with calls := a.calls ++ [.setting] }
  | .set i => a.set i
  | .wake i => a.wake i
  | .own s =>
    if s = .stop then none else (a.loop.step s).map fun l => { a with loop := l }

/-- Takes steps one after the other, passing over those that cannot be taken. -/
def run (a : StoppableLoop) (steps : List CallStep) : StoppableLoop :=
  steps.foldl (fun a x => (a.step x).getD a) a

end StoppableLoop

end MetricAgent.Listen
