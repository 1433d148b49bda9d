import Hostlink.Command
import Hostlink.Connector.Config
import Hostlink.Connector.Os
import Hostlink.Connector.Poll

/-!
# The lifecycle of a connector

A connector is removed by three steps, and installed by removing what is there, running a script,
waiting until its service is active and reading its identifier. Removal is best effort: a step that
ran and failed is passed over. Everything else that goes wrong ends the work at once.

The work is told over any way to run commands: a `Host` acts on a state of its own, which keeps what
it does whether it succeeds or fails.
-/

namespace Hostlink.Connector

/-- The outcome of a step in the management of a connector. -/
abbrev Managed (α : Type) := Except ConnectorFault α

/-- A machine whose connector is managed. -/
structure Host (σ : Type) where
  os : Os
  poll : PollPolicy := {}
  /-- Runs a command. -/
  run : Command → StateM σ (Attempt Outcome)
  /-- Lets so much time pass. -/
  pause : Span → StateM σ Unit

namespace Host

variable {σ : Type}

/-- Runs a command for the connector. -/
def perform (h : Host σ) (command : Command) : StateM σ (Managed Outcome) := do
  match ← h.run command with
  | .ok outcome => return .ok outcome
  | .error fault => return .error (.link fault)

/-- Runs an operation's command. -/
def operate (h : Host σ) (o : Operation) : StateM σ (Managed Outcome) :=
  h.perform { text := h.os.command o }

/-! ## Removal -/

/-- The steps of a removal, in order. -/
def removal : List Operation := [.stopService, .removeService, .removeFiles]

/-- Takes steps one after another, passing over those that ran and failed. -/
def bestEffort (h : Host σ) : List Operation → StateM σ (Managed Unit)
  | [] => return .ok ()
  | o :: rest => do
    match ← h.operate o with
    | .ok _ | .error (.link (.commandFailed ..)) => h.bestEffort rest
    | .error fault => return .error fault

/-- Stops and removes the connector that is there, if any. -/
def uninstall (h : Host σ) : StateM σ (Managed Unit) := h.bestEffort removal

/-! ## Installation -/

/-- Polls until the service is active, so many times at most and at least once, with a pause after
each failed poll but the last. `polled` counts the polls that went before. -/
def awaitActive (h : Host σ) (polled : Nat) : (attempts : Nat) → StateM σ (Managed Unit)
  | 0 | 1 => do
    match ← h.operate .checkActive with
    | .ok _ => return .ok ()
    | .error (.link (.commandFailed ..)) => return .error (.inactive (polled + 1))
    | .error fault => return .error fault
  | attempts + 2 => do
    match ← h.operate .checkActive with
    | .ok _ => return .ok ()
    | .error (.link (.commandFailed ..)) =>
      h.pause h.poll.tick
      h.awaitActive (polled + 1) (attempts + 1)
    | .error fault => return .error fault

/-- Waits until the service is active. -/
def waitUntilActive (h : Host σ) : StateM σ (Managed Unit) := h.awaitActive 0 h.poll.attempts.toNat

/-- Reads the connector's identifier from its configuration. -/
def connectorId (h : Host σ) : StateM σ (Managed String) := do
  match ← h.operate .readConfig with
  | .ok outcome => return readId outcome.stdout
  | .error fault => return .error fault

/-- Installs the connector by a script, in place of one that is there, and answers its identifier. -/
def install (h : Host σ) (script : String) : StateM σ (Managed String) := do
  match ← h.uninstall with
  | .error fault => return .error fault
  | .ok () =>
    match ← h.perform { text := script } with
    | .error fault => return .error fault
    | .ok _ =>
      match ← h.waitUntilActive with
      | .error fault => return .error fault
      | .ok () => h.connectorId

end Host

end Hostlink.Connector
