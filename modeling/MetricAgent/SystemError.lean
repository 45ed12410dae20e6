import MetricAgent.Decimal.Natural
import MetricAgent.Text.Quoted

/-!
Why the system refuses to open, read or bind something.
-/

namespace MetricAgent

open Decimal Text

/-- A cause that has a number. -/
inductive SystemCause where
  | notFound
  | noDevice
  | present
  | notADirectory
  | isADirectory
  | nameTooLong
  | addressNotLocal
  deriving DecidableEq, Repr

namespace SystemCause

def number : SystemCause → Nat
  | notFound => 2
  | noDevice => 6
  | present => 17
  | notADirectory => 20
  | isADirectory => 21
  | nameTooLong => 36
  | addressNotLocal => 99

def text : SystemCause → String
  | notFound => "No such file or directory"
  | noDevice => "No such device or address"
  | present => "File exists"
  | notADirectory => "Not a directory"
  | isADirectory => "Is a directory"
  | nameTooLong => "File name too long"
  | addressNotLocal => "Cannot assign requested address"

def kind : SystemCause → String
  | notFound => "NotFound"
  | noDevice => "Uncategorized"
  | present => "AlreadyExists"
  | notADirectory => "NotADirectory"
  | isADirectory => "IsADirectory"
  | nameTooLong => "InvalidFilename"
  | addressNotLocal => "AddrNotAvailable"

end SystemCause

/-- A cause of the system, or a value that it cannot be asked about. -/
inductive SystemError where
  | cause (c : SystemCause)
  | invalidText
  | invalidAddress
  | invalidPort
  | longPath
  | unknownHost
  /-- A failure that something else reports. -/
  | reported (text : String)
  deriving DecidableEq, Repr

namespace SystemError

/-- The text of a value that is refused. -/
def valueText : SystemError → String
  | cause c => c.text
  | invalidText => "stream did not contain valid UTF-8"
  | invalidAddress => "invalid socket address"
  | invalidPort => "invalid port value"
  | longPath => "path must be shorter than SUN_LEN"
  | unknownHost => "failed to lookup address information: Name or service not known"
  | reported s => s

def message : SystemError → String
  | cause c => c.text ++ " (os error " ++ Decimal.text c.number ++ ")"
  | e => e.valueText

/-- The error with all that is known about it. -/
def describe : SystemError → String
  | cause c =>
    "Os \x7b code: " ++ Decimal.text c.number ++ ", kind: " ++ c.kind ++ ", message: " ++
      quote c.text ++ " \x7d"
  | unknownHost =>
    "Custom \x7b kind: Uncategorized, error: " ++ quote (valueText unknownHost) ++ " \x7d"
  | reported s => "Custom \x7b kind: Other, error: " ++ quote s ++ " \x7d"
  | e =>
    "Error \x7b kind: " ++ (if e = invalidText then "InvalidData" else "InvalidInput") ++
      ", message: " ++ quote e.valueText ++ " \x7d"

end SystemError

end MetricAgent
