import MetricAgent.Config.Basic
import MetricAgent.Http.Base64
import MetricAgent.Http.Payload
import MetricAgent.Url.Basic

/-!
Delivery of batches: one request after the other, with a few attempts for each batch. An attempt
that got no answer, or an answer that the server failed, is made again after a pause, which doubles
every time. An answer that refuses the batch ends its delivery.
-/

namespace MetricAgent.Http

open Config Decimal Text Time

/-- Why nothing can be delivered to a URL. -/
inductive TargetError where
  | malformed (e : Url.UrlError)
  | noCredentials
  deriving DecidableEq, Repr

def TargetError.reason : TargetError → String
  | malformed e => e.message
  | noCredentials => "url cannot carry credentials"

/-- The message about a URL that cannot be used. -/
def TargetError.message (url : String) (e : TargetError) : String :=
  "invalid output url " ++ quote url ++ ": " ++ e.reason

/-- The error with all that is known about it. -/
def TargetError.describe (url : String) (e : TargetError) : String :=
  "Url \x7b url: " ++ quote url ++ ", reason: " ++ quote e.reason ++ " \x7d"

/-- The attempts for one batch. -/
def maxAttempts : Nat := 4

/-- The pause before the second attempt. -/
def initialBackoff : Span := .ofMillis 500

/-- How the agent calls itself. -/
def userAgent : String := "vigil/0.1.0 (linux; x86_64)"

/-- Where and how batches are delivered. -/
structure Delivery where
  /-- The target, without credentials. -/
  url : Url
  user : Option String
  token : Option String
  networkTimeout : Span
  backoff : Span
  options : PayloadOptions
  deriving DecidableEq

/-- A request as the API sees it. -/
structure Request where
  method : String
  target : String
  contentType : String
  userAgent : String
  authorization : Option String
  body : String
  deriving DecidableEq, Repr

/-- How the body of an answer comes, timed from the head of the answer. -/
inductive BodyArrival where
  | whole (after : Span) (text : String)
  /-- The connection ends before the body does. -/
  | cut (after : Span)
  | never
  deriving DecidableEq, Repr

/--
What the `send()` of an attempt resolves to, timed from its start. A redirect that it follows is a
part of the attempt: the answer is then the one at the end, and a loop of redirects is a broken
connection. Where the client gets no answer, the API may have dealt with the request all the same,
with some status.
-/
inductive Reply where
  /-- No connection, so that the API sees no request. -/
  | refused
  /-- The connection ends without an answer. -/
  | broken (after : Span) (status : Option Nat)
  /-- No answer ever comes. -/
  | silent (status : Option Nat)
  | answered (after : Span) (status : Nat) (body : BodyArrival)
  deriving DecidableEq, Repr

/-- The status with which the API dealt with the request, if it did. -/
def Reply.status? : Reply → Option Nat
  | refused => none
  | broken _ status | silent status => status
  | answered _ status _ => some status

/-- Statuses below this one accept what was posted. -/
def acceptedBelow : Nat := 300

/-- The API has accepted what was posted, whether the client knows or not. -/
def Reply.isAccepted (r : Reply) : Bool := r.status?.any (· < acceptedBelow)

/-- What an attempt comes to. -/
inductive Outcome where
  | delivered
  | retry (reason : String)
  | rejected (status : Nat) (body : String)
  deriving DecidableEq, Repr

/-- Why a batch is given up. -/
inductive DeliveryError where
  | rejected (status : Nat) (body : String)
  | exhausted (attempts : Nat) (lastError : String)
  deriving DecidableEq, Repr

def DeliveryError.message : DeliveryError → String
  | rejected status body =>
    "rejected by metrics API with status " ++ text status ++ ": " ++ body
  | exhausted attempts lastError =>
    "giving up after " ++ text attempts ++ " attempts: " ++ lastError

/-- What the delivery of one batch did. -/
structure Report where
  result : Except DeliveryError Unit
  /-- The requests that were made and the replies to them, in order. -/
  exchanges : List (Request × Reply)
  /-- The pauses between its requests. -/
  pauses : List Span
  /-- The reasons of the attempts that could be made again. -/
  failures : List String

/-- The requests that the API sees. -/
def Report.seen (r : Report) : List Request :=
  (r.exchanges.filter (·.2 ≠ .refused)).map Prod.fst

namespace Delivery

/-- The text of a part that is not empty. -/
def partOf (s : List Char) : Option String :=
  if s.isEmpty then none else some (String.ofList s)

/-- A delivery for some settings. Credentials in the URL are used where none are set. -/
def ofConfig (c : HttpConfig) (o : PayloadOptions) : Except TargetError Delivery := do
  let url ← (Url.parse c.url.toList).mapError .malformed
  if url.allowsCredentials then
    .ok
      { url := url.withoutCredentials
        user := c.user <|> partOf url.username
        token := c.token <|> url.password.bind partOf
        networkTimeout := c.networkTimeout
        backoff := initialBackoff
        options := o }
  else .error .noCredentials

/-- A delivery as logs show it. -/
def describe (d : Delivery) : String :=
  "Delivery \x7b url: " ++ quote d.url.text ++ ", user: " ++ quoteOption d.user ++
    ", network_timeout: " ++ d.networkTimeout.compact ++ ", initial_backoff: " ++
    d.backoff.compact ++ ", .. \x7d"

/-- The credentials of requests: none without user and token, else both, a missing one empty. -/
def authorization (d : Delivery) : Option String :=
  if d.user.isNone && d.token.isNone then none
  else
    let pair := d.user.getD "" ++ ":" ++ d.token.getD ""
    some ("Basic " ++ String.ofList (base64 pair.toUTF8.toList))

/-- The request that posts a body. -/
def request (d : Delivery) (body : String) : Request :=
  { method := "POST"
    target := String.ofList d.url.target
    contentType := "application/json"
    userAgent := userAgent
    authorization := d.authorization
    body := body }

/-- Only these schemes are spoken. -/
def isSpoken (d : Delivery) : Bool :=
  d.url.scheme = "http".toList || d.url.scheme = "https".toList

/-- The reason of a request whose connection gave no answer. -/
def brokenReason (d : Delivery) : String :=
  (if d.isSpoken then "error sending request" else "builder error") ++ " for url (" ++
    d.url.text ++ ")"

/-- The reason of a request that got no answer in time. -/
def lateReason (d : Delivery) : String :=
  "no response within " ++ text d.networkTimeout.millis ++ "ms"

/-- What comes so long after what it is waited for is not too late. -/
def waitsFor (d : Delivery) (after : Span) : Bool := after.nanos ≤ d.networkTimeout.nanos

/-- The text of the body of an answer; empty if it does not come whole and in time. -/
def bodyText (d : Delivery) : BodyArrival → String
  | .whole after text => if d.waitsFor after then text else ""
  | .cut _ | .never => ""

/-- What an attempt comes to, by the reply. -/
def outcome (d : Delivery) : Reply → Outcome
  | .refused => .retry d.brokenReason
  | .broken after _ => .retry (if d.waitsFor after then d.brokenReason else d.lateReason)
  | .silent _ => .retry d.lateReason
  | .answered after status body =>
    if !d.waitsFor after then .retry d.lateReason
    else if status < acceptedBelow then .delivered
    else if 500 ≤ status then .retry ("server error " ++ text status)
    else .rejected status (d.bodyText body)

/-- How long a client waits for something that comes after some time, if ever. -/
def waitFor (d : Delivery) (after : Option Span) : Span :=
  match after with
  | some t => if d.waitsFor t then t else d.networkTimeout
  | none => d.networkTimeout

/-- How long an attempt takes. The body of an answer is read unless the answer accepts. -/
def lasts (d : Delivery) : Reply → Span
  | .refused => .zero
  | .broken after _ => d.waitFor (some after)
  | .silent _ => d.waitFor none
  | .answered after status body =>
    let head := d.waitFor (some after)
    if !d.waitsFor after || status < acceptedBelow then head
    else
      let rest := match body with
        | .whole after _ | .cut after => d.waitFor (some after)
        | .never => d.waitFor none
      head.add rest

/-- Attempts with a number left after the next one, each reply at a number of its own. -/
def attempts (d : Delivery) (replies : Nat → Reply) (r : Request) (pause : Span) :
    Nat → Nat → Report
  | left, n =>
    let reply := replies n
    match d.outcome reply with
    | .delivered => ⟨.ok (), [(r, reply)], [], []⟩
    | .rejected status body => ⟨.error (.rejected status body), [(r, reply)], [], []⟩
    | .retry reason =>
      match left with
      | 0 => ⟨.error (.exhausted maxAttempts reason), [(r, reply)], [], [reason]⟩
      | left + 1 =>
        let rest := d.attempts replies r pause.double left (n + 1)
        ⟨rest.result, (r, reply) :: rest.exchanges, pause :: rest.pauses,
          reason :: rest.failures⟩

/-- Delivers one body, the replies being counted from a number. -/
def send (d : Delivery) (replies : Nat → Reply) (n : Nat) (body : String) : Report :=
  d.attempts replies (d.request body) d.backoff (maxAttempts - 1) n

/-- Delivers one body after the other. -/
def sendAll (d : Delivery) (replies : Nat → Reply) (n : Nat) : List String → List Report
  | [] => []
  | body :: bodies =>
    let r := d.send replies n body
    r :: d.sendAll replies (n + r.exchanges.length) bodies

/-- The body of a batch, delivered at some instant. -/
def bodyOf (d : Delivery) (now : Timestamp) (ms : List Measurement) : String :=
  (Payload.ofBatch d.options now ms).body

end Delivery

end MetricAgent.Http
