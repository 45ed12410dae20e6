import MetricAgent.FileTree
import MetricAgent.Listen.AcceptLoop

/-!
Sockets that are files. A listener replaces whatever file there is at its path. When it stops it
removes its own file only: the one with the identity that it bound, if no later listener was bound
at the path.
-/

namespace MetricAgent.Listen

/-- A listener on a socket file: what it bound, and the loop that accepts. -/
structure SocketListener where
  path : Path
  /-- How many listeners had been bound at the path with this one. -/
  generation : Nat
  /-- The identity of the file that was bound. -/
  identity : Nat
  loop : AcceptLoop
  deriving DecidableEq, Repr

/-- The files, and how many listeners have been bound at each path. -/
structure Sockets where
  tree : FileTree
  generations : List (Path × Nat)
  deriving Repr

namespace Sockets

def ofTree (t : FileTree) : Sockets := ⟨t, []⟩

def generation (s : Sockets) (p : Path) : Nat := (s.generations.lookup p).getD 0

/-- The longest text of the path of a socket, in bytes. -/
def maxPathText : Nat := 107

/--
Binds a listener at a path with some text, in the place of any file that is there. That file is
gone also if the text turns out to be too long.
-/
def bind (s : Sockets) (text : String) (p : Path) (identity : Nat) :
    Except SystemError SocketListener × Sockets :=
  match s.tree.clear p with
  | .error c => (.error (.cause c), s)
  | .ok t =>
    if maxPathText < text.utf8ByteSize then (.error .longPath, { s with tree := t })
    else
      match t.obstacle? [] p with
      | some c => (.error (.cause c), { s with tree := t })
      | none =>
        let n := s.generation p + 1
        (.ok ⟨p, n, identity, .start⟩,
          ⟨t.create p ⟨.socket, identity⟩, (p, n) :: s.generations.filter (·.1 ≠ p)⟩)

/-- The file at the path is the one that the listener bound, and no later one was bound there. -/
def isOwn (s : Sockets) (l : SocketListener) : Bool :=
  s.generation l.path = l.generation &&
    (s.tree.find? l.path).any fun f => f.identity = l.identity

/-- Clears away the file of a listener that leaves, if it is its own. -/
def release (s : Sockets) (l : SocketListener) : Sockets :=
  if s.isOwn l then { s with tree := s.tree.unlink l.path } else s

/--
Stops a listener by a call that runs through (`StoppableLoop.loop_run_call`), and lets its loop run
to its end.
-/
def stop (s : Sockets) (l : SocketListener) : SocketListener × Sockets :=
  let left := l.loop.run [.stop, .wake]
  let s := if left.stage = .leaving then s.release l else s
  ({ l with loop := left.run [.clear] }, s)

/-- A client that connects at a path reaches a listener. -/
def reaches (s : Sockets) (p : Path) (l : SocketListener) : Bool :=
  l.path = p && l.loop.isServing && (s.tree.find? p).any fun f => f.identity = l.identity

end Sockets

/-! ### Named listeners -/

/-- What is done to listeners and files; new files come with the identity that they get. -/
inductive SocketStep where
  | bind (id text : String) (path : Path) (identity : Nat)
  | stop (id : String)
  | drop (id : String)
  | write (path : Path) (identity : Nat)
  | makeDirectory (path : Path) (identity : Nat)
  | remove (path : Path)
  | replace (path : Path) (identity : Nat)

/-- Why a step did nothing. -/
inductive SocketFailure where
  | unknown
  | failed (e : SystemError)
  deriving DecidableEq, Repr

/-- Sockets with the listeners that have names. -/
structure SocketHost where
  sockets : Sockets
  listeners : List (String × SocketListener)

namespace SocketHost

/-- No listeners yet. -/
def start (t : FileTree) : SocketHost := ⟨.ofTree t, []⟩

def find? (h : SocketHost) (id : String) : Option SocketListener := h.listeners.lookup id

def forget (h : SocketHost) (id : String) : List (String × SocketListener) :=
  h.listeners.filter (·.1 ≠ id)

/-- Stops a listener that is forgotten. -/
def drop (h : SocketHost) (id : String) : SocketHost :=
  match h.find? id with
  | none => h
  | some l => ⟨(h.sockets.stop l).2, h.forget id⟩

/-- Does something to the files. -/
def onTree (h : SocketHost) (f : FileTree → Except SystemCause FileTree) :
    Except SocketFailure Unit × SocketHost :=
  match f h.sockets.tree with
  | .ok t => (.ok (), { h with sockets := { h.sockets with tree := t } })
  | .error c => (.error (.failed (.cause c)), h)

/-- A step; a listener that is bound under a name in use takes the place of the old one. -/
def step (h : SocketHost) : SocketStep → Except SocketFailure Unit × SocketHost
  | .bind id text p identity =>
    match h.sockets.bind text p identity with
    | (.error e, s) => (.error (.failed e), { h with sockets := s })
    | (.ok l, s) =>
      let h := { h with sockets := s }.drop id
      (.ok (), { h with listeners := (id, l) :: h.listeners })
  | .stop id =>
    match h.find? id with
    | none => (.error .unknown, h)
    | some l =>
      let (l, s) := h.sockets.stop l
      (.ok (), ⟨s, (id, l) :: h.forget id⟩)
  | .drop id => (.ok (), h.drop id)
  | .write p identity => h.onTree (·.write p identity)
  | .makeDirectory p identity => h.onTree (·.makeDirectory p identity)
  | .remove p => h.onTree fun t =>
    if (t.find? p).any (·.kind = .directory) then .ok (t.erase p) else t.remove p
  | .replace p identity => h.onTree (·.replace p identity)

/-- Takes steps one after the other, whether they succeed or not. -/
def run (h : SocketHost) (steps : List SocketStep) : SocketHost :=
  steps.foldl (fun h x => (h.step x).2) h

/-- Whether a client that connects at a path is served. -/
def isServed (h : SocketHost) (p : Path) : Bool :=
  h.listeners.any fun (_, l) => h.sockets.reaches p l

end SocketHost

end MetricAgent.Listen
