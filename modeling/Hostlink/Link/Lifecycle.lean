import Hostlink.Fault

/-!
# What a phase allows

Commands run in the connected phase only, and moves need a session. A move that is refused leaves
the phase as it is.
-/

namespace Hostlink.Link.Phase

/-- Refuses a command outside the connected phase. -/
def ensureRunnable : Phase → Attempt Unit
  | .connected => .ok ()
  | .disconnected | .suspended => .error .notConnected

/-- Carries out a move. -/
def apply (p : Phase) (m : Move) : Attempt Unit × Phase :=
  match p.move? m with
  | some goal => (.ok (), goal)
  | none => (.error (.invalidMove m p), p)

end Hostlink.Link.Phase
