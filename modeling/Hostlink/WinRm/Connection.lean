import Hostlink.Link.Lifecycle
import Hostlink.Link.Station
import Hostlink.Target
import Hostlink.WinRm.Script
import Hostlink.WinRm.Wire

/-!
# WinRM connections

A connection keeps one remote shell from connect to disconnect. A command line is started in the
shell, polled until it has finished, and terminated; whether the termination succeeds changes
nothing. A staged script runs as a sequence of such lines, each of which must return zero, and once
its file was created the line that deletes it is sent whatever happens in between.
-/

namespace Hostlink.WinRm

/-- A shell that is open on an endpoint. -/
structure Session where
  identity : Ntlm.Identity
  endpoint : String
  shell : String
  deriving DecidableEq, Repr

namespace Session

/-- Runs one command line in the shell and collects its output. -/
def execute (s : Session) (line : String) : StateM Wire (Attempt Outcome) := do
  match ← Wire.call s.endpoint (.command s.shell line) with
  | .error fault => return .error fault
  | .ok reply =>
    match commandId reply with
    | .error fault => return .error fault
    | .ok id =>
      let outcome ← Wire.drain s.endpoint s.shell id
      let _ ← Wire.call s.endpoint (.signal s.shell id)
      return outcome

/-- Runs one line that must return zero. -/
def executeStep (s : Session) (line : String) : StateM Wire (Attempt Outcome) := do
  match ← s.execute line with
  | .error fault => return .error fault
  | .ok outcome => return Command.check { text := line } outcome

/-- Runs lines that must all return zero, stopping at the first that does not. -/
def executeSteps (s : Session) : List String → StateM Wire (Attempt Unit)
  | [] => return .ok ()
  | line :: rest => do
    match ← s.executeStep line with
    | .error fault => return .error fault
    | .ok _ => s.executeSteps rest

/-- Appends the pieces of a staged script and runs it. -/
def fillAndRun (s : Session) (script : StagedScript) : StateM Wire (Attempt Outcome) := do
  match ← s.executeSteps script.appendLines with
  | .error fault => return .error fault
  | .ok () => s.execute script.runLine

/-- Runs a staged script. -/
def executeStaged (s : Session) (script : StagedScript) : StateM Wire (Attempt Outcome) := do
  match ← s.executeStep StagedScript.ensureDirLine with
  | .error fault => return .error fault
  | .ok _ =>
    match ← s.executeStep script.createLine with
    | .error fault => return .error fault
    | .ok _ =>
      let outcome ← s.fillAndRun script
      let _ ← s.executeStep script.cleanupLine
      return outcome

/-- Carries out a plan. -/
def carryOut (s : Session) : Plan → StateM Wire (Attempt Outcome)
  | .single line => s.execute line
  | .staged script => s.executeStaged script

/-- Runs a command; `id` names the file of a staged script. -/
def run (s : Session) (id : String) (c : Command) : StateM Wire (Attempt Outcome) := do
  match ← s.carryOut (.ofCommand id c) with
  | .error fault => return .error fault
  | .ok outcome => return c.check outcome

/-- Deletes the shell. -/
def close (s : Session) : StateM Wire (Attempt Unit) := do
  match ← Wire.call s.endpoint (.delete s.shell) with
  | .error fault => return .error fault
  | .ok _ => return .ok ()

end Session

/-! ## Opening a session -/

/-- A login by name and password. -/
structure Login where
  name : String
  password : String

/-- The login of a target, which must have a password. -/
def Login.ofTarget (t : Target) : Attempt Login :=
  match t.credentials.bind fun c => c.passwordValue.map (Login.mk c.username) with
  | some login => .ok login
  | none => .error (.missingCredentials .winRm)

/-- Checks that there is a client for the requests to a target. -/
def checkClient (station : Station) (t : Target) (trusted : Option Bytes) : Attempt Unit :=
  match station.buildClient t.winRm.trustCertificate trusted with
  | .error reason => .error (.configuration s!"Failed to create HTTP client: {reason}")
  | .ok () => .ok ()

/-- Checks the certificate that a target asks to trust, and the client that trusts it, before anything
is sent. -/
def checkCertificate (station : Station) (t : Target) : Attempt Unit :=
  match t.winRm.certificatePath with
  | none => checkClient station t none
  | some path =>
    match station.read path with
    | .error cause => .error (.certificateUnreadable cause)
    | .ok file =>
      match station.readCertificate file with
      | .error reason => .error (.configuration s!"Invalid certificate {path}: {reason}")
      | .ok () => checkClient station t (some file)

/-- How a failure to create a shell is told: failures of the transport and of the login as they
are, all others as a shell that could not be created. -/
def shellFault : LinkFault → LinkFault
  | .http endpoint layers root => .http endpoint layers root
  | .authentication reason => .authentication reason
  | fault => .shellCreation fault.message

/-- Asks once for a shell. -/
def createShell (endpoint : String) : StateM Wire (Attempt String) := do
  match ← Wire.call endpoint .create with
  | .error fault => return .error (shellFault fault)
  | .ok reply => return shellId reply

/-- Opens a session on a target. -/
def Session.open (station : Station) (t : Target) (login : Login) : StateM Wire (Attempt Session) := do
  match checkCertificate station t with
  | .error fault => return .error fault
  | .ok () =>
    match ← Link.retry (Wire.pause t.pause.toNat) (createShell t.endpoint) t.retryAttempts with
    | .error fault => return .error fault
    | .ok shell =>
      let identity := Ntlm.Identity.ofLogin station.workstation login.name login.password
      return .ok { identity, endpoint := t.endpoint, shell }

/-! ## Connections -/

/-- A WinRM connection. -/
structure Connection where
  phase : Link.Phase := .disconnected
  session : Option Session := none
  /-- The address of the target last connected to. -/
  host : String := ""
  deriving DecidableEq, Repr

namespace Connection

/-- Connects to a target, unless there is a session already. -/
def connect (c : Connection) (station : Station) (t : Target) :
    StateM Wire (Attempt Unit × Connection) := do
  if c.phase.hasSession then return (.ok (), c)
  else
    match Login.ofTarget t with
    | .error fault => return (.error fault, c)
    | .ok login =>
      match ← Session.open station t login with
      | .error fault => return (.error fault, c)
      | .ok session => return (.ok (), ⟨.connected, some session, t.address⟩)

/-- Disconnects. The shell is deleted if it can be; the connection is closed either way. -/
def disconnect (c : Connection) : StateM Wire (Attempt Unit × Connection) := do
  if c.phase.hasSession then
    match c.session with
    | none => return (.ok (), { c with phase := .disconnected })
    | some session =>
      let _ ← session.close
      return (.ok (), { c with phase := .disconnected, session := none })
  else return (.ok (), c)

/-- Suspends or restores the connection. -/
def move (c : Connection) (m : Link.Move) : Attempt Unit × Connection :=
  let (result, phase) := c.phase.apply m
  (result, { c with phase })

/-- Runs a command; `id` names the file of a staged script. -/
def run (c : Connection) (id : String) (command : Command) : StateM Wire (Attempt Outcome) :=
  match c.phase.ensureRunnable, c.session with
  | .error fault, _ => return .error fault
  | .ok (), none => return .error .notConnected
  | .ok (), some session => session.run id command

/-- A connection as it may be shown. -/
def shown (c : Connection) : String :=
  let shell := Credentials.shownOption Text.quoted (c.session.map (·.shell))
  "WinRmConnection \x7b host: " ++ Text.quoted c.host ++ ", state: " ++ c.phase.shown ++
    ", shell_id: " ++ shell ++ " \x7d"

end Connection

end Hostlink.WinRm
