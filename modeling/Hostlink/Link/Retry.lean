import Hostlink.Fault

/-!
# Connect attempts

Only a refused dial is worth another attempt: the target may still be starting. Every other outcome
is final. The pause between two attempts is always the same, and none follows the last attempt.
-/

namespace Hostlink.Link

/-- Tries an operation up to so many times, at least once, pausing after each refused dial that is
not the last. The operation leaves its mark on the state whether it fails or not. -/
def retry {σ α : Type} (pause : StateM σ Unit) (operation : StateM σ (Attempt α)) :
    (attempts : Nat) → StateM σ (Attempt α)
  | 0 | 1 => operation
  | attempts + 2 => fun s =>
    match operation s with
    | (.error fault, s) =>
      if fault.isRefused then
        let ((), s) := pause s
        retry pause operation (attempts + 1) s
      else (.error fault, s)
    | (.ok a, s) => (.ok a, s)

end Hostlink.Link
