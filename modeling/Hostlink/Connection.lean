import Hostlink.Ssh.Connection
import Hostlink.WinRm.Connection

/-!
# Connections over either transport

One contract for both transports. `Surroundings` is what a connection meets outside itself: the
local machine, the wires to the target, and the names that staged scripts are given.
-/

namespace Hostlink

/-- What a connection meets outside itself. -/
structure Surroundings where
  station : Station
  ssh : Ssh.Wire
  winRm : WinRm.Wire
  /-- The name of each staged script to come. -/
  scriptId : Nat → String
  /-- How many names are used up. -/
  usedIds : Nat := 0

namespace Surroundings

/-- What the system says where there is no network. -/
def noNetwork : IoFault := .code 101

/-- A machine without a network; `url` is where requests would go. -/
def offline (station : Station) (url : String) : Surroundings where
  station
  ssh := .unreachable noNetwork
  winRm := .unreachable url noNetwork
  scriptId := toString

/-- Acts on the wire to an SSH server. -/
def onSsh {α : Type} (act : StateM Ssh.Wire α) : StateM Surroundings α := fun s =>
  let (a, ssh) := act s.ssh
  (a, { s with ssh })

/-- Acts on the wire to a WinRM endpoint. -/
def onWinRm {α : Type} (act : StateM WinRm.Wire α) : StateM Surroundings α := fun s =>
  let (a, winRm) := act s.winRm
  (a, { s with winRm })

/-- Takes a name for a staged script. -/
def freshId : StateM Surroundings String := fun s =>
  (s.scriptId s.usedIds, { s with usedIds := s.usedIds + 1 })

end Surroundings

/-- A connection over one of the transports. -/
inductive Connection where
  | ssh (c : Ssh.Connection)
  | winRm (c : WinRm.Connection)
  deriving DecidableEq, Repr

namespace Connection

/-- A connection that has not been connected. -/
def new : Transport → Connection
  | .ssh => .ssh {}
  | .winRm => .winRm {}

/-- The transport of a connection. -/
def transport : Connection → Transport
  | .ssh _ => .ssh
  | .winRm _ => .winRm

/-- Where a connection stands. -/
def phase : Connection → Link.Phase
  | .ssh c => c.phase
  | .winRm c => c.phase

/-- Connects to a target, unless there is a session already. -/
def connect (t : Target) : Connection → StateM Surroundings (Attempt Unit × Connection)
  | .ssh c => do
    let station := (← get).station
    let (result, c) ← Surroundings.onSsh (c.connect station t)
    return (result, .ssh c)
  | .winRm c => do
    let station := (← get).station
    let (result, c) ← Surroundings.onWinRm (c.connect station t)
    return (result, .winRm c)

/-- Disconnects, which always succeeds. -/
def disconnect : Connection → StateM Surroundings (Attempt Unit × Connection)
  | .ssh c => do
    let (result, c) ← Surroundings.onSsh c.disconnect
    return (result, .ssh c)
  | .winRm c => do
    let (result, c) ← Surroundings.onWinRm c.disconnect
    return (result, .winRm c)

/-- Suspends or restores a connection. -/
def move (m : Link.Move) : Connection → Attempt Unit × Connection
  | .ssh c => (c.move m).map id .ssh
  | .winRm c => (c.move m).map id .winRm

/-- Runs a command. -/
def run (command : Command) : Connection → StateM Surroundings (Attempt Outcome)
  | .ssh c => Surroundings.onSsh (c.run command)
  | .winRm c => do
    let id ← Surroundings.freshId
    Surroundings.onWinRm (c.run id command)

/-- A connection as it may be shown. -/
def shown : Connection → String
  | .ssh c => c.shown
  | .winRm c => c.shown

/-- A new connection, connected to a target. -/
def establish (t : Target) : StateM Surroundings (Attempt Connection) := do
  match ← (Connection.new t.transport).connect t with
  | (.ok (), c) => return .ok c
  | (.error fault, _) => return .error fault

end Connection

end Hostlink
