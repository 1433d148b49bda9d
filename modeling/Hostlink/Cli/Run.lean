import Hostlink.Cli.Invocation
import Hostlink.Cli.Trouble
import Hostlink.Connection
import Hostlink.Connector.Lifecycle
import Hostlink.Target.File
import Hostlink.Value.Pretty

/-!
# Runs of the program

A run reads its command line, loads the target, connects, acts, and disconnects before it prints
anything, whether the act succeeded or not. What cannot be read locally is found out before anything
is sent.
-/

namespace Hostlink.Cli

open Connector

/-- How a run ends. -/
inductive Ending where
  /-- The command line asks for nothing that can be done. -/
  | refused (fault : UsageFault)
  /-- The run failed. -/
  | failed (verbosity : Nat) (trouble : Trouble)
  /-- The run succeeded, with something to print. -/
  | finished (verbosity : Nat) (text : String)

namespace Ending

/-- The status that the program exits with. -/
def status : Ending → Nat
  | refused fault => if fault.isQuestion then 0 else 2
  | failed .. => 1
  | finished .. => 0

/-- What is printed as the result. -/
def output : Ending → String
  | refused fault => if fault.isQuestion then fault.message else ""
  | failed .. => ""
  | finished _ text => text ++ "\n"

/-- The verbosity from which on the program names itself. -/
def bannerLevel : Nat := 2

/-- The line by which the program names itself. -/
def banner : Ending → Option String
  | refused _ => none
  | failed verbosity _ | finished verbosity _ =>
    if verbosity ≥ bannerLevel then some s!"{programName} v{version}\n" else none

/-- What is told of a command line that is not understood. -/
def notice : Ending → String
  | refused fault => if fault.isQuestion then "" else fault.message
  | failed .. | finished .. => ""

/-- What is told of a failure. -/
def report : Ending → Option String
  | failed _ trouble => some trouble.render
  | refused _ | finished .. => none

end Ending

/-- What a part of a run yields. -/
abbrev Told (α : Type) := Except Trouble α

/-- A failure, with what was being done when it happened. -/
def during (doing : String) (f : Failure) : Trouble := ⟨doing, f.message :: f.sources⟩

/-! ## The target -/

/-- Loads the target of an invocation. -/
def loadTarget (station : Station) : Option String → Told Target
  | none => .error ⟨"no target given (use --target or REMOTE_CONNECTOR_TARGET)", []⟩
  | some path =>
    match Target.ofFile station path with
    | .ok t => .ok t
    | .error fault => .error (during s!"loading target {path}" (.link fault))

/-- Loads the target, connects to it, acts over the connection, and disconnects. -/
def withTarget {α : Type} (target : Option String)
    (act : Target → Connection → StateM Surroundings α) :
    StateM Surroundings (Told (Target × α)) := do
  match loadTarget (← get).station target with
  | .error trouble => return .error trouble
  | .ok t =>
    match ← Connection.establish t with
    | .error fault =>
      return .error (during s!"connecting to {t.socketAddress} over {t.transport.label}" (.link fault))
    | .ok c =>
      let a ← act t c
      let _ ← c.disconnect
      return .ok (t, a)

/-! ## Actions -/

/-- A result in the format that is asked for. -/
def present (format : Format) (v : Value) (human : String) : String :=
  match format with
  | .human => human
  | .json => v.pretty 0

/-- The family of systems to assume: the one that is named, or the one that the transport normally
leads to. -/
def osFor (named : Option Os) (t : Target) : Os := named.getD (Os.ofTransport t.transport)

/-- The machine at the other end of a connection. -/
def hostOf (os : Os) (poll : PollPolicy) (c : Connection) : Host Surroundings where
  os
  poll
  run command := c.run command
  pause _ := return ()

/-- Runs one command. -/
def exec (inv : Invocation) (command : Command) : StateM Surroundings (Told String) := do
  match ← withTarget inv.target fun _ c => c.run command with
  | .error trouble => return .error trouble
  | .ok (t, .error fault) => return .error (during s!"running command on {t.address}" (.link fault))
  | .ok (_, .ok outcome) => return .ok (present inv.format outcome.encode outcome.combined)

/-- Installs the connector by the script in a file. -/
def install (inv : Invocation) (os : Option Os) (script : String) (poll : PollPolicy) :
    StateM Surroundings (Told String) := do
  match (← get).station.readText script with
  | .error cause =>
    let f := Failure.fileUnreadable script cause
    return .error ⟨f.message, f.sources⟩
  | .ok text =>
    match ← withTarget inv.target fun t c => (hostOf (osFor os t) poll c).install text with
    | .error trouble => return .error trouble
    | .ok (t, .error fault) =>
      return .error (during s!"installing connector on {t.address}" (.connector fault))
    | .ok (t, .ok id) =>
      let os := osFor os t
      let v : Value := .record [
        ("host", .text t.address), ("os", .text os.name), ("connector_id", .text id)]
      return .ok (present inv.format v s!"Connector installed on {t.address} ({os.name}): {id}")

/-- Removes the connector. -/
def uninstall (inv : Invocation) (os : Option Os) : StateM Surroundings (Told String) := do
  match ← withTarget inv.target fun t c => (hostOf (osFor os t) {} c).uninstall with
  | .error trouble => return .error trouble
  | .ok (t, .error fault) =>
    return .error (during s!"removing connector from {t.address}" (.connector fault))
  | .ok (t, .ok ()) =>
    let os := osFor os t
    let v : Value := .record [
      ("host", .text t.address), ("os", .text os.name), ("removed", .bool true)]
    return .ok (present inv.format v s!"Connector removed from {t.address} ({os.name})")

/-- Does what an invocation asks for. -/
def perform (inv : Invocation) : StateM Surroundings (Told String) :=
  match inv.action with
  | .exec command => exec inv command
  | .install os script poll => install inv os script poll
  | .uninstall os => uninstall inv os

/-- Runs the program; `environment` is the target that the environment names. -/
def run (environment : Option String) (args : List String) : StateM Surroundings Ending := do
  match Invocation.read environment args with
  | .error fault => return .refused fault
  | .ok inv =>
    match ← perform inv with
    | .error trouble => return .failed inv.verbosity trouble
    | .ok text => return .finished inv.verbosity text

end Hostlink.Cli
