import MetricAgent.Listen.Address
import MetricAgent.Listen.Line
import MetricAgent.Queue
import MetricAgent.Submission

/-!
Connections to a listener. Each is handled by a task of its own: it reads a line, reads the line as
a measurement, puts that into the shared queue and counts it. The first line that is refused ends
the connection, and so does a line that does not come in time. The steps of different connections
may come in any order; a step that would have to wait cannot be taken.
-/

namespace MetricAgent.Listen

open Submission

/-- What a listener counts. -/
structure Stats where
  metrics : UInt64
  connections : UInt64
  parseErrors : UInt64
  deriving DecidableEq, Repr

namespace Stats

def zero : Stats := ⟨0, 0, 0⟩

/-- The counts as measurements of a tick. -/
def measurements (s : Stats) (time : Time.Timestamp) : List Measurement :=
  [⟨time, collectorName, ["stats", "metrics"], .counter s.metrics, .metrics⟩,
    ⟨time, collectorName, ["stats", "connections"], .counter s.connections, .connections⟩,
    ⟨time, collectorName, ["stats", "parse", "errors"], .counter s.parseErrors, .errors⟩]

end Stats

/-- Why a connection ended. -/
inductive EndReason where
  | endOfStream
  | readError
  | idleTimeout
  | queueClosed
  | parseError (e : LineError)
  deriving DecidableEq, Repr

def EndReason.text : EndReason → String
  | endOfStream => "end of stream"
  | readError => "read error"
  | idleTimeout => "idle timeout"
  | queueClosed => "queue closed"
  | parseError _ => "parse error"

/-- What the task of a connection does next. -/
inductive Stage where
  | reading
  | parsing (line : String)
  | sending (m : Measurement)
  | counting
  | ended (r : EndReason)
  deriving DecidableEq

/-- A connection: the bytes that came, those of them not yet read, and whether more may come. -/
structure Connection where
  received : Bytes
  unread : Bytes
  isOver : Bool
  stage : Stage
  deriving DecidableEq

def Connection.opened : Connection := ⟨[], [], false, .reading⟩

/-- Why the connection ended, if it did. -/
def Connection.endReason? (c : Connection) : Option EndReason :=
  match c.stage with
  | .ended r => some r
  | _ => none

/-- The connections of a listener with all that they share. -/
structure Listener where
  stats : Stats
  queue : Queue Measurement
  /-- All that has entered the queue, in order, with the number of its connection if it has one. -/
  passed : List (Option Nat × Measurement)
  /-- All that has left the queue, in order: what the consumer took, and what was lost with it. -/
  left : List Measurement
  connections : List Connection

/-- What happens at a listener. -/
inductive Event where
  | accept
  /-- Bytes come in at a connection. -/
  | arrive (connection : Nat) (bytes : Bytes)
  /-- The other side will send no more. -/
  | close (connection : Nat)
  /-- The connection breaks while its task waits for a line. -/
  | fail (connection : Nat)
  /-- The deadline for the next line passes. -/
  | expire (connection : Nat)
  /-- The task of a connection takes its next step. -/
  | work (connection : Nat)
  /-- A producer other than the connections puts a measurement into the queue. -/
  | offer (m : Measurement)
  /-- The consumer takes a measurement from the queue. -/
  | consume
  /-- The consumer leaves. -/
  | leave
  deriving DecidableEq

namespace Listener

def start (queue : Queue Measurement) : Listener := ⟨.zero, queue, [], [], []⟩

/-- All that has entered the queue from connections, in order. -/
def entered (l : Listener) : List (Nat × Measurement) :=
  l.passed.filterMap fun (i, m) => i.map (·, m)

def set (l : Listener) (i : Nat) (c : Connection) : Listener :=
  { l with connections := l.connections.set i c }

/-- Reads the next line, if it is there; without one, a stream that is over has ended. -/
def read (l : Listener) (i : Nat) (c : Connection) : Option Listener :=
  match nextLine? c.isOver c.unread with
  | some (line, rest) =>
    let stage := (lineText? line).elim (Stage.ended .readError) .parsing
    some (l.set i { c with unread := rest, stage := stage })
  | none => if c.isOver then some (l.set i { c with stage := .ended .endOfStream }) else none

/-- The next step of a task. -/
def work (l : Listener) (i : Nat) : Option Listener := do
  let c ← l.connections[i]?
  match c.stage with
  | .reading => l.read i c
  | .parsing line =>
    match parseLine collectorName line.toList with
    | .ok m => some (l.set i { c with stage := .sending m })
    | .error e =>
      let l := l.set i { c with stage := .ended (.parseError e) }
      some { l with stats := { l.stats with parseErrors := l.stats.parseErrors + 1 } }
  | .sending m =>
    match l.queue.push m with
    | (.accepted, q) =>
      let l := l.set i { c with stage := .counting }
      some { l with queue := q, passed := l.passed ++ [(some i, m)] }
    | (.closed, _) => some (l.set i { c with stage := .ended .queueClosed })
    | (.full, _) => none
  | .counting =>
    let l := l.set i { c with stage := .reading }
    some { l with stats := { l.stats with metrics := l.stats.metrics + 1 } }
  | .ended _ => none

/-- Ends a connection whose task waits for a line. -/
def interrupt (l : Listener) (i : Nat) (r : EndReason) : Option Listener := do
  let c ← l.connections[i]?
  if c.stage = .reading then some (l.set i { c with stage := .ended r }) else none

/-- What a listener is after an event; none if the event cannot happen. -/
def step (l : Listener) : Event → Option Listener
  | .accept =>
    some
      { l with
        connections := l.connections ++ [.opened]
        stats := { l.stats with connections := l.stats.connections + 1 } }
  | .arrive i bytes => do
    let c ← l.connections[i]?
    if c.isOver then none
    else
      some (l.set i { c with received := c.received ++ bytes, unread := c.unread ++ bytes })
  | .close i => do
    let c ← l.connections[i]?
    if c.isOver then none else some (l.set i { c with isOver := true })
  | .fail i => l.interrupt i .readError
  | .expire i => l.interrupt i .idleTimeout
  | .work i => l.work i
  | .offer m =>
    match l.queue.push m with
    | (.accepted, q) => some { l with queue := q, passed := l.passed ++ [(none, m)] }
    | _ => none
  | .consume =>
    match l.queue.pop with
    | (some m, q) => some { l with queue := q, left := l.left ++ [m] }
    | (none, _) => none
  | .leave => some { l with queue := l.queue.close, left := l.left ++ l.queue.items }

/-- Lets events happen one after the other, passing over those that cannot. -/
def run (l : Listener) (events : List Event) : Listener :=
  events.foldl (fun l e => (l.step e).getD l) l

/-- Lets the task of a connection go on until it has to wait, for a number of steps at most. -/
def settle (l : Listener) (i : Nat) : Nat → Listener
  | 0 => l
  | steps + 1 => (l.work i).elim l fun l => l.settle i steps

/-- Enough steps for a task to read all that has come: four for each line, and a last one. -/
def stepsFor (bytes : Bytes) : Nat := 4 * (bytes.length + 1) + 1

/--
Serves one client: it connects, sends some pieces, and then closes its side or, if it holds the
connection, lets the deadline pass.
-/
def serve (l : Listener) (pieces : List Bytes) (isHeld : Bool) : Listener :=
  let i := l.connections.length
  let l := l.run [.accept]
  let l := pieces.foldl (fun l piece => (l.run [.arrive i piece]).settle i (stepsFor piece)) l
  let l := l.run [if isHeld then .expire i else .close i]
  l.settle i (stepsFor (l.connections[i]?.elim [] Connection.unread))

/-- What some clients submit, one after the other, to a queue that has room for all of it. -/
def submissions (clients : List Bytes) : List Measurement :=
  let room := clients.flatten.length
  let served := clients.foldl (fun l bytes => l.serve [bytes] false) (start (.ofCapacity room))
  served.entered.map Prod.snd

end Listener

end MetricAgent.Listen
