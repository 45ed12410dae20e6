/-!
Lines of a stream of bytes. A line ends at a line feed, and a carriage return in front of it does
not belong to it. What stands behind the last line feed is a line once the stream has ended.
-/

namespace MetricAgent.Listen

abbrev Bytes := List UInt8

def lineFeed : UInt8 := 0x0A

def carriageReturn : UInt8 := 0x0D

/-- A line without one carriage return at its end. -/
def dropReturn (line : Bytes) : Bytes :=
  if line.getLast? = some carriageReturn then line.dropLast else line

/-- The first line of the bytes that have come, and the bytes after it. -/
def nextLine? (isOver : Bool) (bytes : Bytes) : Option (Bytes × Bytes) :=
  match bytes.dropWhile (· ≠ lineFeed) with
  | _ :: rest => some (dropReturn (bytes.takeWhile (· ≠ lineFeed)), rest)
  | [] => if isOver && !bytes.isEmpty then some (bytes, []) else none

/-- The text of a line. -/
def lineText? (line : Bytes) : Option String := String.fromUTF8? ⟨line.toArray⟩

end MetricAgent.Listen
