import MetricAgent.Text.Fields
import MetricAgent.Text.Quoted

/-!
Listen addresses: a transport, a comma and an address without commas. Reading and writing are
inverse to each other.
-/

namespace MetricAgent.Listen

open Text

/-- The name of the listener among the collectors. -/
def collectorName : String := "listen"

/-- The kinds of sockets. -/
inductive Transport where
  | tcp
  | tcp4
  | tcp6
  | unix
  | unixpacket
  deriving DecidableEq, Repr

namespace Transport

def all : List Transport := [tcp, tcp4, tcp6, unix, unixpacket]

def text : Transport → String
  | tcp => "tcp"
  | tcp4 => "tcp4"
  | tcp6 => "tcp6"
  | unix => "unix"
  | unixpacket => "unixpacket"

/-- Finds a transport by its text, letter for letter. -/
def ofText? (s : String) : Option Transport := all.find? (·.text = s)

/-- A socket that is a file. -/
def isUnix : Transport → Bool
  | unix | unixpacket => true
  | _ => false

end Transport

/-- Where a listener listens. -/
structure Address where
  transport : Transport
  address : String
  deriving DecidableEq, Repr

/-- Why a text is no address. -/
inductive AddressError where
  | format (text : String)
  | transport (text : String)
  deriving DecidableEq, Repr

/-- The end of both messages. -/
def formatHint : String := "the correct format is: <tcp|tcp4|tcp6|unix|unixpacket>,<address>"

def AddressError.message : AddressError → String
  | format s => "listen address " ++ quote s ++ " is not in the correct format; " ++ formatHint
  | transport s => "unknown listen transport " ++ quote s ++ "; " ++ formatHint

namespace Address

/-- Writes an address. -/
def text (a : Address) : String := a.transport.text ++ "," ++ a.address

/-- Reads an address. A wrong number of commas or an empty address is found first. -/
def parse (s : String) : Except AddressError Address :=
  match splitOn ',' s.toList with
  | [transport, address] =>
    if address.isEmpty then .error (.format s)
    else
      match Transport.ofText? (String.ofList transport) with
      | some t => .ok ⟨t, String.ofList address⟩
      | none => .error (.transport (String.ofList transport))
  | _ => .error (.format s)

end Address

end MetricAgent.Listen
