import Hostlink.Link.Retry
import Hostlink.WinRm.Drain
import Hostlink.WinRm.Exchange

/-!
# The wire to an endpoint

A wire is the endpoint as the client meets it: the turns that it will take, and how it goes on when
they are used up. It keeps a record of every exchange and of every pause, in order.

Every exchange past the last turn fails, so no command is polled for ever.
-/

namespace Hostlink.WinRm

/-- How an endpoint goes on when its turns are used up. -/
inductive Ending where
  /-- It answers every request with an error. -/
  | silent
  /-- It cannot be reached: the client's layers of wording, and what the system says. -/
  | unreachable (layers : List String) (cause : IoFault)

/-- A challenge without target information. -/
def plainChallenge : Bytes :=
  Ntlm.signature ++ Bytes.littleEndian 4 2 ++ Bytes.zeros 12 ++ [1, 2, 3, 4, 5, 6, 7, 8]

/-- The reply that asks for a login by a plain challenge. -/
def challengeReply : HttpReply :=
  ⟨401, [("WWW-Authenticate", authorization plainChallenge)], ""⟩

/-- The turns that an endpoint takes past its last one. -/
def Ending.turn : Ending → Turn
  | .silent =>
    ⟨"", Bytes.zeros 8, 0, .replied challengeReply, .replied ⟨500, [], "no reply"⟩⟩
  | .unreachable layers cause =>
    ⟨"", Bytes.zeros 8, 0, .broken layers (some cause), .broken layers (some cause)⟩

/-- The fault of a poll past the last turn. -/
def Ending.pollFault (endpoint : String) (e : Ending) : LinkFault :=
  match e.turn.poll endpoint with
  | .error fault => fault
  | .ok _ => .execution "the endpoint has nothing more to say"

/-! ## Redirects to the same endpoint -/

/-- The redirect that a reply is, if it names a place that the client can read. -/
def HttpReply.redirect? (place? : String → Option (String × Bool)) (r : HttpReply) :
    Option Redirect :=
  if follows : r.status ∈ redirectStatuses then do
    let (_, location) ← r.headers.find? fun header => header.1.toLower == "location"
    let (url, elsewhere) ← place? location
    return { status := r.status, url, elsewhere, follows }
  else none

/-- The redirect by which a turn answers its first leg. -/
def Turn.redirect? (place? : String → Option (String × Bool)) (t : Turn) : Option Redirect :=
  match t.negotiate.ending with
  | .broken .. => none
  | .replied r => r.redirect? place?

/-- A turn to which the client is sent on. -/
def Turn.behind (t : Turn) (r : Redirect) : Turn :=
  { t with negotiate := { t.negotiate with redirects := r :: t.negotiate.redirects } }

/-- The turns of an endpoint as a client takes them that follows redirects: where it is sent on in the
first leg of a turn, the place is the endpoint again, which takes its next turn. -/
def follow (place? : String → Option (String × Bool)) (ending : Ending) : List Turn → List Turn
  | [] => []
  | t :: rest =>
    match t.redirect? place?, follow place? ending rest with
    | none, later => t :: later
    | some r, next :: later => next.behind r :: later
    | some r, [] => [ending.turn.behind r]

/-! ## The wire -/

/-- What happens on a wire. -/
inductive Event where
  | exchange (e : Exchange)
  /-- A pause between two connect attempts, in seconds. -/
  | pause (seconds : Nat)

/-- An endpoint as the client meets it. -/
structure Wire where
  /-- The turns to come. -/
  turns : List Turn
  ending : Ending
  /-- What has happened, in order. -/
  events : List Event := []

/-- The layers of wording of a request that finds no connection. -/
def requestLayers (url : String) : List String :=
  [s!"error sending request for url ({url})", "error trying to connect"]

namespace Wire

/-- A wire on which no endpoint can be reached. -/
def unreachable (url : String) (cause : IoFault) : Wire where
  turns := []
  ending := .unreachable (requestLayers url ++ ["tcp connect error"]) cause

/-- The exchanges that have happened, in order. -/
def exchanges (w : Wire) : List Exchange :=
  w.events.filterMap fun
    | .exchange e => some e
    | .pause _ => none

/-- Carries out an exchange, and answers the turn that the endpoint took. -/
def exchange (endpoint : String) (request : Request) : StateM Wire Turn := fun w =>
  let (turn, rest) := match w.turns with
    | [] => (w.ending.turn, [])
    | turn :: rest => (turn, rest)
  (turn, { w with turns := rest, events := w.events ++ [.exchange ⟨endpoint, request, turn⟩] })

/-- Sends a request that has to succeed. -/
def call (endpoint : String) (request : Request) : StateM Wire (Attempt String) := do
  let turn ← exchange endpoint request
  return turn.call endpoint

/-- Lets time pass. -/
def pause (seconds : Nat) : StateM Wire Unit := fun w =>
  ((), { w with events := w.events ++ [.pause seconds] })

/-- Polls a command until it has finished or a poll fails. -/
def drain (endpoint shell command : String) : StateM Wire (Attempt Outcome) := fun w =>
  let (polls, outcome) :=
    WinRm.drain (·.poll endpoint) (w.ending.pollFault endpoint) 0 {} w.turns
  let request := Request.receive shell command
  let turns := (w.turns ++ [w.ending.turn]).take polls
  let events := turns.map fun turn => Event.exchange ⟨endpoint, request, turn⟩
  (outcome, { w with turns := w.turns.drop polls, events := w.events ++ events })

end Wire

end Hostlink.WinRm
