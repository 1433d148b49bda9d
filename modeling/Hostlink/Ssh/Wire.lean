import Hostlink.Link.Retry
import Hostlink.Ssh.Channel
import Hostlink.Ssh.Key

/-!
# The wire to an SSH server

A wire is the server as the client meets it: what each dial leads to, how a login after it is
answered, and what each channel brings. It keeps a record of what has happened, in order.
-/

namespace Hostlink.Ssh

/-- What proves a login. -/
inductive Proof where
  | password (password : String)
  | publicKey (key : Key)
  deriving DecidableEq, Repr

/-- The name of a method of proof. -/
def Proof.name : Proof → String
  | .password _ => "password"
  | .publicKey _ => "publickey"

/-- What a proof is called where a login by it could not be carried out. -/
def Proof.label : Proof → String
  | .password _ => "Password"
  | .publicKey _ => "Key"

/-- A login, as the server is asked to accept it. -/
structure Login where
  user : String
  proof : Proof
  deriving DecidableEq, Repr

/-- How a server answers a login. -/
inductive Answer where
  | accepted
  | rejected
  /-- The server goes away instead of answering. -/
  | gone
  /-- The login could not be carried out. -/
  | failed (reason : String)
  deriving DecidableEq, Repr

/-- What a dial leads to. -/
inductive Dial where
  /-- No connection: what the system says. -/
  | failed (cause : IoFault)
  /-- A connection that cannot be told to send at once: what the system says. -/
  | unready (cause : IoFault)
  /-- Nothing within the time allowed. -/
  | stalled
  /-- A connection that is not answered in the protocol. -/
  | garbled (reason : String)
  /-- A server, by how it answers a login. -/
  | reached (answer : Login → Answer)

/-- What comes of opening a channel and running a command on it. -/
inductive Opening where
  /-- The channel is refused. -/
  | refused (reason : String)
  /-- The channel is open, but the command cannot be sent. -/
  | unsent (reason : String)
  /-- The command runs: the messages that the server writes for it. Where the connection is lost
  meanwhile, only so many of them have come by then, and no more will. -/
  | opened (written : List Message) (loss : Option Nat)
  deriving DecidableEq, Repr

/-- A channel on which a command runs without a word and returns zero. -/
def Opening.quiet : Opening := .opened [.exitStatus 0, .close] none

/-- The messages that come of those that are written. -/
def arriving (written : List Message) : Option Nat → List Message
  | none => written
  | some count => written.take count

/-- What happens on a wire. -/
inductive Event where
  | dial (d : Dial)
  | login (l : Login) (answer : Answer)
  | opening (accepted : Bool)
  | exec (command : String)
  /-- The server was asked to close the session; why that failed, if it did. -/
  | closing (failure : Option String)
  /-- A pause between two connect attempts, in seconds. -/
  | pause (seconds : Nat)

/-- A server as the client meets it. -/
structure Wire where
  /-- What the dials to come lead to. -/
  dials : List Dial := []
  /-- What every dial past these leads to. -/
  later : Dial
  /-- The channels to come; past the last one they are quiet. -/
  openings : List Opening := []
  /-- Why the requests to come that close a session fail, if they do; past the last one they are
  sent. -/
  closings : List (Option String) := []
  /-- Whether the connection of the current session is lost. -/
  lost : Bool := false
  /-- What has happened, in order. -/
  events : List Event := []

namespace Wire

/-- A wire on which no server can be reached. -/
def unreachable (cause : IoFault) : Wire where
  later := .failed cause

/-- Adds to the record. -/
def record (e : Event) : StateM Wire Unit := fun w => ((), { w with events := w.events ++ [e] })

/-- Lets time pass. -/
def pause (seconds : Nat) : StateM Wire Unit := record (.pause seconds)

/-- Dials the server. -/
def dial : StateM Wire Dial := fun w =>
  let (d, rest) := match w.dials with
    | [] => (w.later, [])
    | d :: rest => (d, rest)
  (d, { w with dials := rest, lost := false, events := w.events ++ [.dial d] })

/-- Asks a server for a login. -/
def login (answer : Login → Answer) (l : Login) : StateM Wire Answer := do
  record (.login l (answer l))
  return answer l

/-- What is said of a request that a lost connection cannot take. -/
def sendError : String := "Channel send error"

/-- Opens a channel and runs a command on it. -/
def exec (command : String) : StateM Wire (Attempt Outcome) := fun w =>
  if w.lost then (.error (.execution s!"Failed to open channel: {sendError}"), w)
  else
    let (opening, rest) := match w.openings with
      | [] => (Opening.quiet, [])
      | opening :: rest => (opening, rest)
    match opening with
    | .refused reason =>
      (.error (.execution s!"Failed to open channel: {reason}"),
        { w with openings := rest, events := w.events ++ [.opening false] })
    | .unsent reason =>
      (.error (.execution s!"Failed to execute command: {reason}"),
        { w with openings := rest, events := w.events ++ [.opening true] })
    | .opened written loss =>
      (.ok (collect (arriving written loss)),
        { w with
          openings := rest, lost := loss.isSome
          events := w.events ++ [.opening true, .exec command] })

/-- Asks the server to close the session, and answers why that failed, if it did. -/
def close : StateM Wire (Option String) := fun w =>
  let (failure, rest) := match w.closings with
    | [] => (none, [])
    | failure :: rest => (failure, rest)
  let failure := if w.lost then some sendError else failure
  (failure, { w with closings := rest, events := w.events ++ [.closing failure] })

end Wire

end Hostlink.Ssh
