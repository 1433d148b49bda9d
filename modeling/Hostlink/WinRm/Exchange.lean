import Hostlink.Text.Cut
import Hostlink.WinRm.Ntlm
import Hostlink.WinRm.Reply
import Hostlink.WinRm.Request
import Hostlink.WinRm.Status

/-!
# Exchanges with an endpoint

A request travels in an exchange of two legs. The first carries no body and must be answered with a
challenge; the second proves the login and carries the envelope. The envelope is handed to the HTTP
client only in answer to a challenge, and at most once.

The client follows redirects by itself. A leg is what it makes of them: the redirects that it has
followed, and how the leg ends behind them. So more can be sent than was handed to the client.

`Turn` is everything that comes from outside into one exchange: what the endpoint does on each leg,
and the three values that the client takes from chance and the clock. What an exchange yields
(`Turn.response`) depends on the turn alone; what it hands to the client (`Exchange.requests`) and what
is sent of it (`Exchange.posts`) on the identity too.
-/

namespace Hostlink.WinRm

/-- A reply to one leg. -/
structure HttpReply where
  status : Nat
  headers : List (String × String)
  body : String
  deriving DecidableEq, Repr

/-- The status codes of replies by which a client is sent on to another place. -/
def redirectStatuses : List Nat := [301, 302, 303, 307, 308]

/-- A redirect that a client follows. -/
structure Redirect where
  status : Nat
  /-- The place that the reply names, as the client reads it. -/
  url : String
  /-- Whether that is on another host or port. -/
  elsewhere : Bool
  follows : status ∈ redirectStatuses := by decide
  deriving DecidableEq, Repr

/-- Whether the client is to repeat its request at the other place, as it is. -/
def Redirect.repeats (r : Redirect) : Bool := r.status == 307 || r.status == 308

/-- How a leg ends. -/
inductive LegEnd where
  /-- No reply can be had: the client's layers of wording around what the system said. -/
  | broken (layers : List String) (root : Option IoFault)
  /-- A reply by which the client is not sent on. -/
  | replied (reply : HttpReply)

/-- What the endpoint does on one leg. -/
structure Leg where
  ending : LegEnd
  /-- The redirects that the client has followed, in order. -/
  redirects : List Redirect := []

namespace Leg

/-- A leg without a redirect on which no reply can be had. -/
def broken (layers : List String) (root : Option IoFault) : Leg := { ending := .broken layers root }

/-- A leg that is answered without a redirect. -/
def replied (reply : HttpReply) : Leg := { ending := .replied reply }

end Leg

/-- What comes from outside into one exchange. -/
structure Turn where
  /-- The number of the message that the request travels in. -/
  messageId : String
  /-- The eight octets that the client adds to the server's challenge. -/
  clientChallenge : Bytes
  /-- The time of the proof, in tenths of microseconds since 1601. -/
  timestamp : Nat
  /-- The leg without a body. -/
  negotiate : Leg
  /-- The leg with the envelope. -/
  authenticate : Leg

/-- The status and the text that an exchange yields. -/
structure Response where
  status : Nat
  text : String
  deriving DecidableEq, Repr

/-! ## The challenge -/

/-- Whether a header's value can be read as text: visible ASCII, blanks and tabs. -/
def isReadable (value : String) : Bool :=
  value.toList.all fun c => (0x20 ≤ c.toNat && c.toNat < 0x7F) || c == '\t'

/-- A header's value without the blanks and tabs around it. -/
def headerValue (value : String) : List Char :=
  let blank (c : Char) := c == ' ' || c == '\t'
  ((value.toList.dropWhile blank).reverse.dropWhile blank).reverse

/-- The schemes whose challenges are understood, with the blank that ends them. -/
def schemes : List (List Char) := ["Negotiate ".toList, "NTLM ".toList]

/-- The token of a header's value that offers a challenge. -/
def offeredToken? (value : String) : Option (List Char) :=
  if isReadable value then
    let text := headerValue value
    schemes.findSome? fun scheme =>
      if scheme.isPrefixOf text then some (Text.trimChars (text.drop scheme.length)) else none
  else none

/-- The token of the first header that offers a challenge. -/
def HttpReply.token? (r : HttpReply) : Option (List Char) :=
  r.headers.findSome? fun (name, value) =>
    if name.toLower = "www-authenticate" then offeredToken? value else none

/-- The fault of a leg on which no reply was had. -/
def brokenLeg (endpoint : String) (layers : List String) (root : Option IoFault) : LinkFault :=
  .http endpoint layers root

/-- The challenge that the first leg of a turn brings. -/
def Turn.challenge (t : Turn) (endpoint : String) : Attempt Ntlm.Challenge :=
  match t.negotiate.ending with
  | .broken layers root => .error (brokenLeg endpoint layers root)
  | .replied r =>
    if isUnauthorized r.status then
      match r.token? with
      | none => .error (.authentication "No NTLM challenge in WWW-Authenticate")
      | some token =>
        match Base64.decode (Utf8.encode (String.ofList token)) with
        | .error fault => .error (.authentication s!"Invalid challenge encoding: {fault.message}")
        | .ok message => Ntlm.Challenge.parse message
    else .error (.authentication s!"Expected NTLM challenge, got HTTP {statusText r.status}")

/-! ## What comes back -/

/-- What the second leg yields by how it ends. -/
def LegEnd.response (endpoint : String) : LegEnd → Attempt Response
  | .broken layers root => .error (brokenLeg endpoint layers root)
  | .replied r =>
    if isUnauthorized r.status then .error (.authentication "NTLM credentials rejected")
    else .ok ⟨r.status, if isBodyless r.status then "" else r.body⟩

/-- What an exchange yields. -/
def Turn.response (t : Turn) (endpoint : String) : Attempt Response :=
  match t.challenge endpoint with
  | .error fault => .error fault
  | .ok _ => t.authenticate.ending.response endpoint

/-- What a request yields that has to succeed: the text of the reply. -/
def Turn.call (t : Turn) (endpoint : String) : Attempt String :=
  match t.response endpoint with
  | .error fault => .error fault
  | .ok r =>
    if isSuccess r.status then .ok r.text
    else
      .error (.execution s!"WinRM request failed: {statusText r.status} - {faultReason r.text}")

/-- What a poll yields. A fault that says the poll timed out means that there is nothing yet. -/
def Turn.poll (t : Turn) (endpoint : String) : Attempt Chunk :=
  match t.response endpoint with
  | .error fault => .error fault
  | .ok r =>
    if isSuccess r.status then receiveChunk r.text
    else if isReceiveTimeout r.text then .ok .pending
    else
      .error (.execution s!"WinRM receive failed: {statusText r.status} - {faultReason r.text}")

/-! ## What is sent -/

/-- One exchange: what was asked of which endpoint, and what came from outside. -/
structure Exchange where
  endpoint : String
  request : Request
  turn : Turn

/-- How something is asked of a place. -/
inductive Method where
  | post
  | get
  deriving DecidableEq, Repr

/-- What is sent to a place. -/
structure Post where
  url : String
  /-- What proves the login, unless it is held back. -/
  authorization : Option String
  contentType : Option String
  body : String
  method : Method := .post
  deriving DecidableEq, Repr

/-- What is sent to the place that a redirect names, in place of what was sent before: the same, or a
mere question without a body. The login is not proved to another host. -/
def Post.sentOn (p : Post) (r : Redirect) : Post :=
  let authorization := if r.elsewhere then none else p.authorization
  if r.repeats then { p with url := r.url, authorization }
  else { url := r.url, authorization, contentType := none, body := "", method := .get }

/-- **What is sent of a request** where redirects are followed: the request itself, and what each of
them makes of it. -/
def Post.along (p : Post) : List Redirect → List Post
  | [] => [p]
  | r :: rest => p :: (p.sentOn r).along rest

/-- The type of an envelope. -/
def contentType : String := "application/soap+xml;charset=UTF-8"

/-- A message as it is carried in a header. -/
def authorization (message : Bytes) : String := "Negotiate " ++ String.ofList (Base64.encode message)

namespace Exchange

/-- The third message of an exchange, where it comes to that. -/
def proof? (e : Exchange) (i : Ntlm.Identity) : Option Bytes :=
  match e.turn.challenge e.endpoint with
  | .error _ => none
  | .ok c => some (i.authenticate c e.turn.clientChallenge e.turn.timestamp)

/-- The text of the request. -/
def text (e : Exchange) : String := e.request.envelope e.endpoint e.turn.messageId

/-- The request of the first leg, which carries nothing. -/
def hello (e : Exchange) (i : Ntlm.Identity) : Post where
  url := e.endpoint
  authorization := some (authorization i.negotiate)
  contentType := some contentType
  body := ""

/-- The request of the second leg, which proves the login by a message. -/
def carrier (e : Exchange) (message : Bytes) : Post where
  url := e.endpoint
  authorization := some (authorization message)
  contentType := some contentType
  body := e.text

/-- What an identity hands to the client in an exchange: the request of the first leg always, that of
the second only in answer to a challenge. -/
def requests (e : Exchange) (i : Ntlm.Identity) : List Post :=
  e.hello i :: (e.proof? i).toList.map e.carrier

/-- What is sent of it. -/
def posts (e : Exchange) (i : Ntlm.Identity) : List Post :=
  (e.hello i).along e.turn.negotiate.redirects ++
    ((e.proof? i).toList.map e.carrier).flatMap (·.along e.turn.authenticate.redirects)

end Exchange

end Hostlink.WinRm
