/-!
Units of measure: a long name and an abbreviation, either of which may be missing.
-/

namespace MetricAgent

/-- A unit as it is displayed. -/
structure UnitOfMeasure where
  name : String
  abbreviation : String
  deriving DecidableEq, Repr, Inhabited

namespace UnitOfMeasure

def none : UnitOfMeasure := ⟨"", ""⟩
def percent : UnitOfMeasure := ⟨"Percent", "%"⟩
def bytes : UnitOfMeasure := ⟨"Bytes", "b"⟩
def seconds : UnitOfMeasure := ⟨"Seconds", "s"⟩
def milliseconds : UnitOfMeasure := ⟨"MilliSeconds", "ms"⟩
def nanoseconds : UnitOfMeasure := ⟨"NanoSeconds", "ns"⟩
def requests : UnitOfMeasure := ⟨"Requests", "reqs"⟩
def errors : UnitOfMeasure := ⟨"Errors", "errs"⟩
def packets : UnitOfMeasure := ⟨"Packets", "pkts"⟩
def files : UnitOfMeasure := ⟨"Files", "files"⟩
def processes : UnitOfMeasure := ⟨"Processes", "procs"⟩
def connections : UnitOfMeasure := ⟨"Connections", "conns"⟩
def sockets : UnitOfMeasure := ⟨"Sockets", "socks"⟩
def metrics : UnitOfMeasure := ⟨"Metrics", "metrics"⟩

/-- Neither a name nor an abbreviation. -/
def isEmpty (u : UnitOfMeasure) : Bool := u.name.isEmpty && u.abbreviation.isEmpty

/-- The name, with the abbreviation in parentheses if there is one. -/
def display (u : UnitOfMeasure) : String :=
  if u.abbreviation.isEmpty then u.name else u.name ++ " (" ++ u.abbreviation ++ ")"

end UnitOfMeasure

end MetricAgent
