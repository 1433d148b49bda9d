import Hostlink.WinRm.Reply
import Hostlink.Command

/-!
# Draining a command's output

A command's output comes in chunks, one for each poll, until a chunk says that the command has
finished or a poll fails. Characters may be cut between chunks, so the octets of each stream are
put together before they are read as text.
-/

namespace Hostlink.WinRm

/-- The octets of two streams, as the chunks that they came in, the last one first. -/
structure Collected where
  stdout : List Bytes := []
  stderr : List Bytes := []

namespace Collected

/-- What was collected and one more chunk. -/
def push (a : Collected) (c : Chunk) : Collected := ⟨c.stdout :: a.stdout, c.stderr :: a.stderr⟩

/-- The outcome of what was collected; a command that reports no code has ended with zero. -/
def outcome (a : Collected) (exitCode : Option Int32) : Outcome where
  stdout := Utf8.decodeLossy a.stdout.reverse.flatten
  stderr := Utf8.decodeLossy a.stderr.reverse.flatten
  exitCode := exitCode.getD 0

end Collected

/-- Polls until the command has finished or a poll fails; a poll past the last one yields `past`.
Answers how many polls it took, counted from `polls`, and the outcome. -/
def drain {τ : Type} (poll : τ → Attempt Chunk) (past : LinkFault) (polls : Nat)
    (collected : Collected) : List τ → Nat × Attempt Outcome
  | [] => (polls + 1, .error past)
  | t :: rest =>
    match poll t with
    | .error fault => (polls + 1, .error fault)
    | .ok chunk =>
      let collected := collected.push chunk
      if chunk.done then (polls + 1, .ok (collected.outcome chunk.exitCode))
      else drain poll past (polls + 1) collected rest

end Hostlink.WinRm
