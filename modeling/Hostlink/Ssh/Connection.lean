import Hostlink.Link.Lifecycle
import Hostlink.Link.Station
import Hostlink.Ssh.Wire
import Hostlink.Target

/-!
# SSH connections

A connection keeps one session from connect to disconnect, and every command gets a channel of its
own. Any host key is accepted. Exactly one method of login is attempted: the one that the
credentials choose, made ready before the first dial.
-/

namespace Hostlink.Ssh

/-- Makes ready what proves a login. -/
def Proof.ofCredentials (station : Station) (c : Credentials) : Attempt Proof :=
  let ofText (text : String) : Attempt Proof :=
    match station.readKey text with
    | .ok key => .ok (.publicKey key)
    | .error reason => .error (.authentication s!"Invalid private key: {reason}")
  match c.sshMethod with
  | none => .error (.missingCredentials .ssh)
  | some (.password secret) => .ok (.password secret)
  | some (.inlineKey text) => ofText text
  | some (.keyFile path) =>
    match station.readText path with
    | .error cause => .error (.keyUnreadable path cause)
    | .ok text => ofText text

/-- The login of a target. -/
def Login.ofTarget (station : Station) (t : Target) : Attempt Login :=
  match t.credentials with
  | none => .error (.missingCredentials .ssh)
  | some c => (Proof.ofCredentials station c).map (Login.mk c.username)

/-- A session that is open on a server. -/
structure Session where
  /-- The login that the server has accepted. -/
  login : Login
  deriving DecidableEq, Repr

/-- Dials, shakes hands and logs in, once. -/
def establish (address : String) (l : Login) : StateM Wire (Attempt Session) := do
  match ← Wire.dial with
  | .failed cause => return .error (.dialFailed address cause)
  | .unready cause => return .error (.io cause)
  | .stalled => return .error (.timedOut address Target.dialTimeout)
  | .garbled reason => return .error (.ssh s!"SSH handshake with {address} failed: {reason}")
  | .reached answer =>
    match ← Wire.login answer l with
    | .accepted => return .ok ⟨l⟩
    | .rejected | .gone =>
      return .error (.authentication
        s!"{l.proof.name} authentication rejected for user {l.user}")
    | .failed reason =>
      return .error (.authentication s!"{l.proof.label} authentication failed: {reason}")

/-- An SSH connection. -/
structure Connection where
  phase : Link.Phase := .disconnected
  session : Option Session := none
  /-- The address of the target last connected to. -/
  host : String := ""
  deriving DecidableEq, Repr

namespace Connection

/-- Connects to a target, unless there is a session already. -/
def connect (c : Connection) (station : Station) (t : Target) :
    StateM Wire (Attempt Unit × Connection) := do
  if c.phase.hasSession then return (.ok (), c)
  else
    match Login.ofTarget station t with
    | .error fault => return (.error fault, c)
    | .ok login =>
      match ← Link.retry (Wire.pause t.pause.toNat) (establish t.socketAddress login) t.retryAttempts with
      | .error fault => return (.error fault, c)
      | .ok session => return (.ok (), ⟨.connected, some session, t.address⟩)

/-- Disconnects. The server is asked to close the session; the connection is closed either way. -/
def disconnect (c : Connection) : StateM Wire (Attempt Unit × Connection) := do
  if c.phase.hasSession then
    match c.session with
    | none => return (.ok (), { c with phase := .disconnected })
    | some _ =>
      let _ ← Wire.close
      return (.ok (), { c with phase := .disconnected, session := none })
  else return (.ok (), c)

/-- Suspends or restores the connection. -/
def move (c : Connection) (m : Link.Move) : Attempt Unit × Connection :=
  let (result, phase) := c.phase.apply m
  (result, { c with phase })

/-- Runs a command. -/
def run (c : Connection) (command : Command) : StateM Wire (Attempt Outcome) := do
  match c.phase.ensureRunnable, c.session with
  | .error fault, _ => return .error fault
  | .ok (), none => return .error .notConnected
  | .ok (), some _ =>
    match ← Wire.exec command.text with
    | .error fault => return .error fault
    | .ok outcome => return command.check outcome

/-- A connection as it may be shown. -/
def shown (c : Connection) : String :=
  "SshConnection \x7b host: " ++ Text.quoted c.host ++ ", state: " ++ c.phase.shown ++ " \x7d"

end Connection

end Hostlink.Ssh
