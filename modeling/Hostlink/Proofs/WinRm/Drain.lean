import Hostlink.WinRm.Drain
import Mathlib.Data.List.Forall2

/-!
# What a drain comes to

`drain` polls and gathers in one loop. Said without the loop: polls that find a command unfinished
add their octets to what was collected, `drain_append`, and the first poll that fails or finds the
command finished decides the rest, `drain_failed` and `drain_finished`. What was collected counts
only for the octets in it, `drain_congr`, so it makes no difference in which pieces they came.
-/

namespace Hostlink.WinRm

namespace Collected

theorem push_stdout (a : Collected) (c : Chunk) :
    (a.push c).stdout.reverse.flatten = a.stdout.reverse.flatten ++ c.stdout := by
  simp only [push, List.reverse_cons, List.flatten_append, List.flatten_singleton]

theorem push_stderr (a : Collected) (c : Chunk) :
    (a.push c).stderr.reverse.flatten = a.stderr.reverse.flatten ++ c.stderr := by
  simp only [push, List.reverse_cons, List.flatten_append, List.flatten_singleton]

/-- **The same octets**, in whatever pieces they were collected. -/
structure Same (a b : Collected) : Prop where
  stdout : a.stdout.reverse.flatten = b.stdout.reverse.flatten
  stderr : a.stderr.reverse.flatten = b.stderr.reverse.flatten

theorem Same.push {a b : Collected} (h : Same a b) (c : Chunk) : Same (a.push c) (b.push c) :=
  ⟨by rw [push_stdout, push_stdout, h.stdout], by rw [push_stderr, push_stderr, h.stderr]⟩

/-- Chunks that came one after another have put their octets together in that order. -/
theorem foldl_push (chunks : List Chunk) (a : Collected) :
    (chunks.foldl push a).stdout.reverse.flatten =
        a.stdout.reverse.flatten ++ chunks.flatMap (·.stdout) ∧
      (chunks.foldl push a).stderr.reverse.flatten =
        a.stderr.reverse.flatten ++ chunks.flatMap (·.stderr) := by
  induction chunks generalizing a with
  | nil => simp
  | cons c chunks ih =>
    obtain ⟨out, err⟩ := ih (a.push c)
    refine ⟨?_, ?_⟩
    · rw [List.foldl_cons, out, push_stdout, List.flatMap_cons, List.append_assoc]
    · rw [List.foldl_cons, err, push_stderr, List.flatMap_cons, List.append_assoc]

theorem Same.outcome {a b : Collected} (h : Same a b) (code : Option Int32) :
    a.outcome code = b.outcome code := by
  simp only [Collected.outcome, h.stdout, h.stderr]

end Collected

/-- **The outcome of chunks**: their octets put together, read as text, and a code or zero. -/
def Chunk.together (chunks : List Chunk) (code : Option Int32) : Outcome where
  stdout := Utf8.decodeLossy (chunks.flatMap (·.stdout))
  stderr := Utf8.decodeLossy (chunks.flatMap (·.stderr))
  exitCode := code.getD 0

theorem Collected.outcome_foldl_push (chunks : List Chunk) (code : Option Int32) :
    (chunks.foldl push {}).outcome code = Chunk.together chunks code := by
  obtain ⟨out, err⟩ := foldl_push chunks {}
  simp only [Collected.outcome, Chunk.together, out, err, List.reverse_nil, List.flatten_nil,
    List.nil_append]

section Drain

variable {τ : Type} (poll : τ → Attempt Chunk) (past : LinkFault)

/-- **Polls that find a command unfinished**, and the chunks that they bring. -/
def Unfinished (polls : List τ) (chunks : List Chunk) : Prop :=
  List.Forall₂ (fun t c => poll t = .ok c ∧ c.done = false) polls chunks

variable {poll}

/-- Only the octets that were collected count, not how many polls or pieces they took. -/
theorem drain_congr {a b : Collected} (h : a.Same b) (n m : Nat) (polls : List τ) :
    (drain poll past n a polls).2 = (drain poll past m b polls).2 := by
  induction polls generalizing a b n m with
  | nil => rfl
  | cons t rest ih =>
    unfold drain
    cases poll t with
    | error fault => rfl
    | ok chunk =>
      simp only
      split
      · rw [(h.push chunk).outcome]
      · exact ih (h.push chunk) _ _

/-- Polls that find a command unfinished add what they bring, and the drain goes on. -/
theorem drain_append {polls : List τ} {chunks : List Chunk} (h : Unfinished poll polls chunks)
    (n : Nat) (a : Collected) (rest : List τ) :
    drain poll past n a (polls ++ rest) =
      drain poll past (n + polls.length) (chunks.foldl .push a) rest := by
  induction h generalizing n a with
  | nil => rfl
  | @cons t chunk polls chunks first _ ih =>
    simp only [List.cons_append, drain, first.1, first.2, Bool.false_eq_true, if_false, ih,
      List.length_cons, List.foldl_cons, Nat.add_assoc, Nat.add_comm 1]

/-- **The first poll that finds the command finished** ends the drain with all octets so far. -/
theorem drain_finished {polls : List τ} {chunks : List Chunk} (h : Unfinished poll polls chunks)
    {t : τ} {last : Chunk} (polled : poll t = .ok last) (done : last.done = true) (rest : List τ) :
    (drain poll past 0 {} (polls ++ t :: rest)).2 =
      .ok (Chunk.together (chunks ++ [last]) last.exitCode) := by
  rw [drain_append past h, drain, ← Collected.outcome_foldl_push, List.foldl_append]
  simp only [polled, done, if_true, List.foldl_cons, List.foldl_nil]

/-- **The first poll that fails** ends the drain with its fault, and nothing of the output. -/
theorem drain_failed {polls : List τ} {chunks : List Chunk} (h : Unfinished poll polls chunks)
    {t : τ} {fault : LinkFault} (polled : poll t = .error fault) (rest : List τ) :
    (drain poll past 0 {} (polls ++ t :: rest)).2 = .error fault := by
  rw [drain_append past h, drain]
  simp only [polled]

end Drain

end Hostlink.WinRm
