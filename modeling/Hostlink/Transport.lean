/-!
# Transports

The two remote-shell protocols that a target can be reached by.
-/

namespace Hostlink

/-- A remote-shell protocol. -/
inductive Transport where
  | ssh
  | winRm
  deriving DecidableEq, Repr, Inhabited

namespace Transport

/-- Every transport. -/
def all : List Transport := [.ssh, .winRm]

/-- The name shown to people. -/
def label : Transport → String
  | .ssh => "SSH"
  | .winRm => "WinRM"

/-- The name written in files. -/
def tag : Transport → String
  | .ssh => "ssh"
  | .winRm => "winrm"

/-- The name of a transport as it is shown inside a target. -/
def shown : Transport → String
  | .ssh => "Ssh"
  | .winRm => "WinRm"

/-- The port dialled when the target names none. -/
def defaultPort : Transport → Nat
  | .ssh => 22
  | .winRm => 5986

end Transport

end Hostlink
