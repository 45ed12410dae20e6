import MetricAgent.Collector.Error
import MetricAgent.Listen.Address
import MetricAgent.Listen.SocketFile
import MetricAgent.Url.Ipv6

/-!
Binding a listener to its address. Hosts of network addresses are written in numbers; names of hosts
are not looked up.
-/

namespace MetricAgent.Listen

open Collector (CollectorError)
open Decimal Text Url

/-- The number of a host in one of the two families. -/
inductive HostNumber where
  | four (n : Nat)
  | six (pieces : List Nat)
  deriving DecidableEq, Repr

namespace HostNumber

/-- Every host calls these addresses its own. -/
def isLocal : HostNumber → Bool
  | four n => n / 16777216 = 127 || n = 0
  | six ps => ps.take 7 = List.replicate 7 0 && (ps.drop 7).all (· ≤ 1)

/-- A family that a transport asks for. -/
def suits (t : Transport) : HostNumber → Bool
  | four _ => t ≠ .tcp6
  | six _ => t ≠ .tcp4

end HostNumber

/-- A text in front of its last colon, and the text after it. -/
def splitPort? (s : List Char) : Option (List Char × List Char) :=
  match s.reverse.dropWhile (· ≠ ':') with
  | [] => none
  | _ :: host => some (host.reverse, (s.reverse.takeWhile (· ≠ ':')).reverse)

/-- The host of an address; a number of the second family may stand in brackets. -/
def host? (s : List Char) : Option HostNumber :=
  match s with
  | '[' :: r => if r.getLast? = some ']' then (Ipv6.ofText? r.dropLast).map .six else none
  | s =>
    if s.getLast? = some '.' then none
    else ((Ipv4.ofText? s).map .four) <|> ((Ipv6.ofText? s).map .six)

/-- Reads a host and a port. -/
def resolve (s : List Char) : Except SystemError HostNumber :=
  match splitPort? s with
  | none => .error .invalidAddress
  | some (host, port) =>
    if (signedWord? port).any (· < 65536) then (host? host).elim (.error .unknownHost) .ok
    else .error .invalidPort

/-- What a listener listens on. -/
inductive Binding where
  | network (host : HostNumber)
  | file (l : SocketListener)

def Binding.isFile : Binding → Bool
  | .network _ => false
  | .file _ => true

/-- An address on the network, of the family that its transport asks for. -/
def bindNetwork (a : Address) : Except CollectorError Binding := do
  let h ← (resolve a.address.toList).mapError .system
  if !h.suits a.transport then
    .error (.config ("listen address " ++ a.text ++ " does not resolve to a " ++
      a.transport.text ++ " address"))
  else if h.isLocal then .ok (.network h)
  else .error (.system (.cause .addressNotLocal))

/-- Binds a listener; paths of socket files start at the root or at a directory. -/
def bind (s : Sockets) (base : Path) (identity : Nat) (a : Address) :
    Except CollectorError (Binding × Sockets) :=
  match a.transport with
  | .tcp | .tcp4 | .tcp6 => (bindNetwork a).map (·, s)
  | .unix =>
    match s.bind a.address (.ofText base a.address) identity with
    | (.ok l, s) => .ok (.file l, s)
    | (.error e, _) => .error (.system e)
  | .unixpacket =>
    .error (.config ("listen transport " ++ a.transport.text ++ " is not supported"))

end MetricAgent.Listen
