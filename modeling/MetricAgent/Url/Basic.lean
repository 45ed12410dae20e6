import MetricAgent.Url.Domain
import MetricAgent.Url.Ipv6

/-!
URLs by the parts that a request needs, how they are read and how they are written. A special URL
has one of six schemes; it always has a path, and all but files need a host.
-/

namespace MetricAgent

open Decimal Text

namespace Url

/-- The machine of a URL. An opaque name is kept as it is written. -/
inductive Host where
  | name (s : List Char)
  | ipv4 (address : Nat)
  | ipv6 (pieces : List Nat)
  deriving DecidableEq, Repr

/-- What follows the machine: segments, or text without structure. -/
inductive Path where
  | segments (ss : List (List Char))
  | opaqueText (s : List Char)
  deriving DecidableEq, Repr

end Url

/-- A URL whose parts are already encoded. -/
structure Url where
  scheme : List Char
  username : List Char
  password : Option (List Char)
  host : Option Url.Host
  port : Option Nat
  path : Url.Path
  query : Option (List Char)
  fragment : Option (List Char)
  deriving DecidableEq, Repr

namespace Url

/-- Why a text is no URL. -/
inductive UrlError where
  | noScheme
  | emptyHost
  | port
  | ipv4
  | ipv6
  | domain
  | hostCharacter
  deriving DecidableEq, Repr

def UrlError.message : UrlError → String
  | noScheme => "relative URL without a base"
  | emptyHost => "empty host"
  | port => "invalid port number"
  | ipv4 => "invalid IPv4 address"
  | ipv6 => "invalid IPv6 address"
  | domain => "invalid international domain name"
  | hostCharacter => "invalid domain character"

/-- The port of a special scheme, if it has one. -/
def defaultPorts : List (String × Option Nat) :=
  [("http", some 80), ("https", some 443), ("ws", some 80), ("wss", some 443), ("ftp", some 21),
    ("file", none)]

def isSpecial (scheme : List Char) : Bool :=
  defaultPorts.any fun (name, _) => name.toList = scheme

def defaultPort (scheme : List Char) : Option Nat :=
  (defaultPorts.lookup (String.ofList scheme)).join

def isFile (scheme : List Char) : Bool := scheme = "file".toList

/-! ### Writing -/

def Host.text : Host → List Char
  | name s => s
  | ipv4 n => Ipv4.text n
  | ipv6 ps => '[' :: Ipv6.text ps ++ [']']

def Path.text : Path → List Char
  | segments ss => ss.flatMap ('/' :: ·)
  | opaqueText s => s

/-- A part with a mark in front, if it is there. -/
def marked (mark : Char) (s : Option (List Char)) : List Char := s.elim [] (mark :: ·)

/-- The user name and the password, up to the at sign. -/
def credentialsText (u : Url) : List Char :=
  if u.username.isEmpty && u.password.isNone then []
  else u.username ++ marked ':' u.password ++ ['@']

/-- The host with what belongs to it, after two slashes. Without one, a path does not start so. -/
def authorityText (u : Url) : List Char :=
  match u.host with
  | some h => "//".toList ++ u.credentialsText ++ h.text ++ marked ':' (u.port.map digits)
  | none =>
    match u.path with
    | .segments (s :: _ :: _) => if s.isEmpty then "/.".toList else []
    | _ => []

/-- Path and query, as a request line names them. -/
def target (u : Url) : List Char := u.path.text ++ marked '?' u.query

/-- The whole URL. -/
def chars (u : Url) : List Char :=
  u.scheme ++ ':' :: u.authorityText ++ u.target ++ marked '#' u.fragment

def text (u : Url) : String := String.ofList u.chars

/-- A URL that can have a user name: it has a host and is no file. -/
def allowsCredentials (u : Url) : Bool :=
  !isFile u.scheme && u.host.any (!·.text.isEmpty)

/-- The same URL without user name and password. -/
def withoutCredentials (u : Url) : Url := { u with username := [], password := none }

/-! ### Reading -/

/-- A control or a space, which is left out at either end. -/
def isEdge (c : Char) : Bool := c.toNat ≤ 0x20

/-- A tab or a line end, which is left out everywhere. -/
def isIgnored (c : Char) : Bool := c = '\t' || c = '\n' || c = '\r'

/-- A text as it is read. -/
def clean (s : List Char) : List Char :=
  (((s.dropWhile isEdge).reverse.dropWhile isEdge).reverse).filter (!isIgnored ·)

def isSchemeChar (c : Char) : Bool := c.isAlphanum || c = '+' || c = '-' || c = '.'

/-- The scheme in lower case, and the text after its colon. -/
def scheme? (s : List Char) : Option (List Char × List Char) :=
  match s, s.dropWhile isSchemeChar with
  | c :: _, ':' :: rest =>
    if c.isAlpha then some ((s.takeWhile isSchemeChar).map Char.toLower, rest) else none
  | _, _ => none

/-- A slash; a special URL may have backslashes instead. -/
def isSlash (special : Bool) (c : Char) : Bool := c = '/' || (special && c = '\\')

/-- What ends the part between two slashes and the path. -/
def endsAuthority (special : Bool) (c : Char) : Bool := isSlash special c || c = '?' || c = '#'

/-- A text before and after the last at sign, if it has one. -/
def splitLastAt? (s : List Char) : Option (List Char × List Char) :=
  match s.reverse.dropWhile (· ≠ '@') with
  | [] => none
  | _ :: front => some (front.reverse, (s.reverse.takeWhile (· ≠ '@')).reverse)

/-- User name and password, encoded; an empty password is none. -/
def credentials (s : List Char) : List Char × Option (List Char) :=
  let name := percentEncode inUserInfo (s.takeWhile (· ≠ ':'))
  let secret := percentEncode inUserInfo ((s.dropWhile (· ≠ ':')).drop 1)
  (name, if secret.isEmpty then none else some secret)

/-- The text of a host, up to a colon that is not in brackets, and what follows. -/
def spanHost (inside : Bool) : List Char → List Char × List Char
  | [] => ([], [])
  | c :: s =>
    if c = ':' && !inside then ([], c :: s)
    else
      let (host, rest) := spanHost (if c = '[' then true else if c = ']' then false else inside) s
      (c :: host, rest)

/-- An address between brackets. -/
def bracketed (s : List Char) : Except UrlError Host :=
  match s.reverse with
  | ']' :: inner => (Ipv6.ofText? inner.reverse).elim (.error .ipv6) (.ok ∘ .ipv6)
  | _ => .error .ipv6

/-- Characters that may not be in an opaque host. -/
def isForbiddenHostChar (c : Char) : Bool :=
  ['\x00', '\t', '\n', '\r', ' ', '#', '/', ':', '<', '>', '?', '@', '[', '\\', ']', '^',
    '|'].contains c

/-- The text of a domain name given in bytes, encoded or not. -/
def decodedName? (s : List Char) : Option (List Char) :=
  (String.fromUTF8? ⟨(percentDecode s).toArray⟩).map String.toList

/-- The host of a special URL. -/
def specialHost (s : List Char) : Except UrlError Host :=
  match s with
  | '[' :: s => bracketed s
  | s =>
    match (decodedName? s).bind Domain.toAscii with
    | none => .error .domain
    | some name =>
      if name.isEmpty then .error .emptyHost
      else if Ipv4.endsInNumber name then
        (Ipv4.ofText? name).elim (.error .ipv4) (.ok ∘ .ipv4)
      else .ok (.name name)

/-- The host of any other URL. -/
def opaqueHost (s : List Char) : Except UrlError Host :=
  match s with
  | '[' :: s => bracketed s
  | s =>
    if s.any isForbiddenHostChar then .error .hostCharacter
    else .ok (.name (percentEncode isControl s))

/-- The port after a host, if it is not the one of the scheme. A backslash ends it as well. -/
def readPort (scheme : List Char) : List Char → Except UrlError (Option Nat × List Char)
  | ':' :: s =>
    let (ds, rest) := (s.takeWhile Char.isDigit, s.dropWhile Char.isDigit)
    if 65536 ≤ ofDigits ds || rest.head?.any (· ≠ '\\') then .error .port
    else
      let n := if ds.isEmpty then none else some (ofDigits ds)
      .ok (if n = defaultPort scheme then none else n, rest)
  | s => .ok (none, s)

/-- Whether a segment stands for the one that holds it, and for the one above. -/
def isHere (s : List Char) : Bool :=
  let s := s.map Char.toLower
  s = ".".toList || s = "%2e".toList

def isAbove (s : List Char) : Bool :=
  let s := s.map Char.toLower
  [".."  , "%2e.", ".%2e", "%2e%2e"].any (·.toList = s)

/-- Segments with those for here and above carried out. -/
def resolveFrom (above : List (List Char)) : List (List Char) → List (List Char)
  | [] => above.reverse
  | [s] =>
    (if isAbove s then [] :: above.drop 1 else if isHere s then [] :: above else s :: above).reverse
  | s :: r =>
    resolveFrom (if isAbove s then above.drop 1 else if isHere s then above else s :: above) r

/-- The parts of a text between slashes. -/
def splitSlashes (special : Bool) (s : List Char) : List (List Char) :=
  splitOn '/' (s.map fun c => if isSlash special c then '/' else c)

/-- The segments of a path after its first slash. -/
def segments (special : Bool) (s : List Char) : List (List Char) :=
  resolveFrom [] ((splitSlashes special s).map (percentEncode inPath))

/-- The path of a URL with a host. -/
def hierarchicalPath (special : Bool) (s : List Char) : Path :=
  match s with
  | c :: r => .segments (segments special (if isSlash special c then r else s))
  | [] => .segments (if special then [[]] else [])

/-- The text up to the first of two marks, and the text after it if it is there. -/
def splitAt? (mark : Char) (s : List Char) : List Char × Option (List Char) :=
  (s.takeWhile (· ≠ mark), ((s.dropWhile (· ≠ mark)).head?).map fun _ =>
    (s.dropWhile (· ≠ mark)).drop 1)

/-- A text as what comes before the query, the query and the fragment, the last two encoded. -/
def splitTail (special : Bool) (s : List Char) :
    List Char × Option (List Char) × Option (List Char) :=
  let (s, fragment) := splitAt? '#' s
  let (s, query) := splitAt? '?' s
  (s, query.map (percentEncode (if special then inSpecialQuery else inQuery)),
    fragment.map (percentEncode inFragment))

/-- A URL with two slashes after its scheme, from what follows them. -/
def withAuthority (scheme : List Char) (s : List Char) : Except UrlError Url := do
  let special := isSpecial scheme
  let authority := s.takeWhile (!endsAuthority special ·)
  let rest := s.dropWhile (!endsAuthority special ·)
  let (userinfo, place) := (splitLastAt? authority).getD ([], authority)
  if (splitLastAt? authority).isSome && userinfo.isEmpty && place.isEmpty && !rest.isEmpty then
    .error .emptyHost
  else
    let (username, password) := credentials userinfo
    let (hostText, afterHost) := spanHost false place
    if special && hostText.isEmpty then .error .emptyHost
    else
      let host ← if special then specialHost hostText else opaqueHost hostText
      let isNamed := !host.text.isEmpty
      if !isNamed && !afterHost.isEmpty then .error .emptyHost
      else
        let (port, afterPort) ← readPort scheme afterHost
        if !isNamed && !(username.isEmpty && password.isNone) then .error .emptyHost
        else
          let (path, query, fragment) := splitTail special (afterPort ++ rest)
          .ok
            { scheme, username, password, port, query, fragment
              host := if isNamed then some host else none
              path := hierarchicalPath special path }

/-- A letter and a colon or a bar. -/
def isDriveLetter : List Char → Bool
  | [a, b] => a.isAlpha && (b = ':' || b = '|')
  | _ => false

/-- A file, whose host may be left out. -/
def file (s : List Char) : Except UrlError Url := do
  let (beforeTail, query, fragment) := splitTail true s
  let (hostText, path) := match beforeTail with
    | a :: b :: r =>
      if isSlash true a && isSlash true b then
        let name := r.takeWhile (!isSlash true ·)
        if isDriveLetter name then ([], '/' :: r) else (name, r.dropWhile (!isSlash true ·))
      else ([], beforeTail)
    | _ => ([], beforeTail)
  let host ← if hostText.isEmpty then .ok (.name []) else specialHost hostText
  let isLocal := host = .name [] || host = .name "localhost".toList
  .ok
    { scheme := "file".toList, username := [], password := none, port := none, query, fragment
      host := if isLocal then none else some host
      path := hierarchicalPath true path }

/-- A URL of another scheme without two slashes. -/
def withoutAuthority (scheme : List Char) (s : List Char) : Url :=
  let (path, query, fragment) := splitTail false s
  { scheme, username := [], password := none, host := none, port := none, query, fragment
    path := match path with
      | '/' :: _ => hierarchicalPath false path
      | _ => .opaqueText (percentEncode isControl path) }

/-- Reads a URL. -/
def parse (s : List Char) : Except UrlError Url :=
  match scheme? (clean s) with
  | none => .error .noScheme
  | some (scheme, rest) =>
    if isFile scheme then file rest
    else if isSpecial scheme then withAuthority scheme (rest.dropWhile (isSlash true))
    else
      match rest with
      | '/' :: '/' :: r => withAuthority scheme r
      | _ => .ok (withoutAuthority scheme rest)

end Url

end MetricAgent
