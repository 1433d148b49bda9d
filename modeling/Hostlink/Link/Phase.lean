/-!
# Phases of a link

```text
disconnected --connect--> connected --suspend--> suspended
     ^                      |   ^                  |
     +------disconnect------+   +-----restore------+
     +------------------disconnect-----------------+
```

A suspended link keeps its session and refuses commands. Suspending and restoring need a session
and may be repeated; disconnecting is always allowed.
-/

namespace Hostlink.Link

/-- Where a link stands. -/
inductive Phase where
  /-- No session. -/
  | disconnected
  /-- A session that takes commands. -/
  | connected
  /-- A session that refuses commands. -/
  | suspended
  deriving DecidableEq, Repr, Inhabited

/-- A move that needs a session. -/
inductive Move where
  | suspend
  | restore
  deriving DecidableEq, Repr

namespace Move

/-- The name of a move. -/
def name : Move → String
  | .suspend => "suspend"
  | .restore => "restore"

/-- Where a move leads. -/
def goal : Move → Phase
  | .suspend => .suspended
  | .restore => .connected

end Move

namespace Phase

/-- The name of a phase. -/
def name : Phase → String
  | .disconnected => "disconnected"
  | .connected => "connected"
  | .suspended => "suspended"

/-- The name of a phase as it is shown inside a link. -/
def shown : Phase → String
  | .disconnected => "Disconnected"
  | .connected => "Connected"
  | .suspended => "Suspended"

/-- Whether there is a session. -/
def hasSession : Phase → Bool
  | .disconnected => false
  | .connected | .suspended => true

/-- Whether commands are refused although there is a session. -/
def isSuspended : Phase → Bool
  | .suspended => true
  | .disconnected | .connected => false

/-- The phase after a move, if there is a session to move. -/
def move? (p : Phase) (m : Move) : Option Phase :=
  if p.hasSession then some m.goal else none

end Phase

end Hostlink.Link
