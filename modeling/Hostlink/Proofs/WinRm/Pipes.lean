import Hostlink.Proofs.WinRm.Drain
import Hostlink.WinRm.Wire
import Mathlib.Logic.Relation

/-!
# Pipes between the polls and the output

A drain gathers octets at three places at once. The producer polls, and writes what a chunk brings
into one pipe for either stream, first all of the one and then all of the other; behind each pipe a
copy takes octets out. A pipe holds so many octets and no more, so the producer may have to wait in
the middle of a chunk until a copy has made room, and a copy waits until there is something to take.
Any of the three may go on at any time, by any number of octets.

`Step` says what each of the three may do next. What the whole comes to does not depend on who goes
on when: `Plumbing.foresee` is what draining one chunk after another would make of what is taken,
what is in the pipes and what is left to write, and no step changes it, `foresee_step`. Someone can
always go on until all have ended, `Plumbing.exists_step`, and no one can go on for ever,
`acc_of_ends`.
-/

namespace Hostlink.WinRm

/-! ## Pipes -/

/-- How many octets a pipe holds. -/
def pipeCapacity : Nat := 64 * 1024

/-- A pipe, and the copy at its end. -/
structure Pipe where
  /-- What is written and not yet taken out. -/
  queue : Bytes := []
  /-- What the copy has taken out. -/
  taken : Bytes := []
  /-- Whether the writer has shut it down, or is gone. -/
  closed : Bool := false
  /-- Whether the copy has seen its end. -/
  ended : Bool := false
  bounded : queue.length ≤ pipeCapacity := by decide
  drained : ended = true → queue = [] ∧ closed = true := by decide

namespace Pipe

/-- All octets that were ever written. -/
def carried (p : Pipe) : Bytes := p.taken ++ p.queue

/-- Writes octets into an open pipe that has room for them. -/
def push (p : Pipe) (bytes : Bytes) (opened : p.closed = false)
    (fits : p.queue.length + bytes.length ≤ pipeCapacity) : Pipe where
  queue := p.queue ++ bytes
  taken := p.taken
  closed := p.closed
  ended := p.ended
  bounded := by rwa [List.length_append]
  drained h := absurd ((p.drained h).2.symm.trans opened) (by decide)

/-- Takes octets out. -/
def pull (p : Pipe) (n : Nat) : Pipe where
  queue := p.queue.drop n
  taken := p.taken ++ p.queue.take n
  closed := p.closed
  ended := p.ended
  bounded := by
    rw [List.length_drop]
    exact Nat.le_trans (Nat.sub_le _ _) p.bounded
  drained h := ⟨by rw [(p.drained h).1, List.drop_nil], (p.drained h).2⟩

/-- Shuts a pipe down; what is in it can still be taken out. -/
def close (p : Pipe) : Pipe where
  queue := p.queue
  taken := p.taken
  closed := true
  ended := p.ended
  bounded := p.bounded
  drained h := ⟨(p.drained h).1, rfl⟩

/-- Sees the end of a pipe that is shut down and empty. -/
def finish (p : Pipe) (empty : p.queue = []) (closed : p.closed = true) : Pipe where
  queue := p.queue
  taken := p.taken
  closed := p.closed
  ended := true
  bounded := p.bounded
  drained _ := ⟨empty, closed⟩

/-- **A write** puts at least one of the octets in, as many as there is room for or fewer. -/
inductive Write : Pipe → Bytes → Pipe → Bytes → Prop
  | some (p : Pipe) (bytes : Bytes) (n : Nat) (opened : p.closed = false)
      (fits : p.queue.length + (bytes.take n).length ≤ pipeCapacity) (first : 0 < n)
      (last : n ≤ bytes.length) : Write p bytes (p.push (bytes.take n) opened fits) (bytes.drop n)

/-- **A copy** takes at least one octet out, or sees the end. -/
inductive Copy : Pipe → Pipe → Prop
  | some (p : Pipe) (n : Nat) (first : 0 < n) (last : n ≤ p.queue.length) : Copy p (p.pull n)
  | finish (p : Pipe) (empty : p.queue = []) (closed : p.closed = true) (goes : p.ended = false) :
      Copy p (p.finish empty closed)

variable {p p' : Pipe} {bytes left : Bytes}

/-- Nothing is lost between the octets that are left to write and those that were written. -/
theorem Write.carried (h : Write p bytes p' left) : p'.carried ++ left = p.carried ++ bytes := by
  cases h with
  | some n _ _ _ _ =>
    show p.taken ++ (p.queue ++ bytes.take n) ++ bytes.drop n = p.taken ++ p.queue ++ bytes
    simp only [List.append_assoc, List.take_append_drop]

theorem Copy.carried (h : Copy p p') : p'.carried = p.carried := by
  cases h with
  | some n _ _ =>
    show p.taken ++ p.queue.take n ++ p.queue.drop n = p.taken ++ p.queue
    rw [List.append_assoc, List.take_append_drop]
  | finish _ _ _ => rfl

theorem Write.closed (h : Write p bytes p' left) : p'.closed = p.closed := by
  cases h
  rfl

theorem Copy.closed (h : Copy p p') : p'.closed = p.closed := by
  cases h <;> rfl

theorem carried_of_ended (h : p.ended = true) : p.carried = p.taken := by
  rw [Pipe.carried, (p.drained h).1, List.append_nil]

/-- Into an open pipe octets can be written, unless it is full; then some can be taken out. -/
theorem exists_write_or_copy (opened : p.closed = false) (some : bytes ≠ []) :
    (∃ p' left, Write p bytes p' left) ∨ ∃ p', Copy p p' := by
  by_cases room : p.queue.length < pipeCapacity
  · have short : p.queue.length + (bytes.take 1).length ≤ pipeCapacity := by
      rw [List.length_take]
      omega
    exact .inl ⟨_, _, .some p bytes 1 opened short Nat.one_pos (List.length_pos_iff.mpr some)⟩
  · have full : 0 < p.queue.length := by
      have : 0 < pipeCapacity := by decide
      omega
    exact .inr ⟨_, .some p 1 Nat.one_pos full⟩

/-- A copy whose pipe is shut down can go on until it has seen the end. -/
theorem exists_copy (closed : p.closed = true) (goes : p.ended = false) : ∃ p', Copy p p' := by
  by_cases empty : p.queue = []
  · exact ⟨_, .finish p empty closed goes⟩
  · exact ⟨_, .some p 1 Nat.one_pos (List.length_pos_iff.mpr empty)⟩

/-- How often a copy can go on at most, if nothing more is written. -/
def toDo (p : Pipe) : Nat := p.queue.length + (!p.ended).toNat

theorem Write.toDo (h : Write p bytes p' left) :
    ∃ n, 0 < n ∧ bytes.length = left.length + n ∧ p'.toDo = p.toDo + n := by
  cases h with
  | some n _ _ first last =>
    refine ⟨n, first, ?_, ?_⟩
    · rw [List.length_drop]
      omega
    · simp only [Pipe.toDo, push, List.length_append, List.length_take, Nat.min_eq_left last]
      omega

theorem Copy.toDo_lt (h : Copy p p') : p'.toDo < p.toDo := by
  cases h with
  | some n first last =>
    simp only [Pipe.toDo, pull, List.length_drop]
    omega
  | finish empty closed goes => simp [Pipe.toDo, Pipe.finish, goes]

@[simp] theorem toDo_close (p : Pipe) : p.close.toDo = p.toDo := rfl

end Pipe

/-! ## Polls, pipes and copies -/

/-- What the producer is about to do. -/
inductive Producer where
  /-- To poll. -/
  | polling
  /-- To write what is left of a chunk. -/
  | writing (left : Chunk)
  /-- To shut both pipes down. -/
  | closing (code : Int32)
  /-- To shut the second pipe down. -/
  | closingErr (code : Int32)
  /-- Nothing more. -/
  | ended (answer : Attempt Int32)

/-- The producer, with the number of polls that it has made, and the two pipes. -/
structure Plumbing where
  polls : Nat
  producer : Producer
  stdout : Pipe
  stderr : Pipe

/-- Before the first poll. -/
def Plumbing.start : Plumbing := ⟨0, .polling, {}, {}⟩

/-- What the three have come to, once all have ended: the fault of the producer, or the text of what
the copies took out and the code. -/
def Plumbing.answer? (s : Plumbing) : Option (Attempt Outcome) :=
  match s.producer with
  | .ended answer =>
    if s.stdout.ended && s.stderr.ended then
      some (answer.map fun code =>
        ⟨Utf8.decodeLossy s.stdout.taken, Utf8.decodeLossy s.stderr.taken, code⟩)
    else none
  | _ => none

section

variable (next : Nat → Attempt Chunk)

/-- **What may happen next.** A producer that ends with a fault leaves both pipes. -/
inductive Step : Plumbing → Plumbing → Prop
  | polled {n : Nat} {out err : Pipe} {chunk : Chunk} (brought : next n = .ok chunk) :
      Step ⟨n, .polling, out, err⟩ ⟨n + 1, .writing chunk, out, err⟩
  | failed {n : Nat} {out err : Pipe} {fault : LinkFault} (broken : next n = .error fault) :
      Step ⟨n, .polling, out, err⟩ ⟨n + 1, .ended (.error fault), out.close, err.close⟩
  | writeOut {n : Nat} {out out' err : Pipe} {left : Chunk} {rest : Bytes}
      (write : out.Write left.stdout out' rest) :
      Step ⟨n, .writing left, out, err⟩ ⟨n, .writing { left with stdout := rest }, out', err⟩
  | writeErr {n : Nat} {out err err' : Pipe} {left : Chunk} {rest : Bytes}
      (written : left.stdout = []) (write : err.Write left.stderr err' rest) :
      Step ⟨n, .writing left, out, err⟩ ⟨n, .writing { left with stderr := rest }, out, err'⟩
  | goOn {n : Nat} {out err : Pipe} {left : Chunk} (writtenOut : left.stdout = [])
      (writtenErr : left.stderr = []) (unfinished : left.done = false) :
      Step ⟨n, .writing left, out, err⟩ ⟨n, .polling, out, err⟩
  | finish {n : Nat} {out err : Pipe} {left : Chunk} (writtenOut : left.stdout = [])
      (writtenErr : left.stderr = []) (done : left.done = true) :
      Step ⟨n, .writing left, out, err⟩ ⟨n, .closing (left.exitCode.getD 0), out, err⟩
  | closeOut {n : Nat} {out err : Pipe} {code : Int32} :
      Step ⟨n, .closing code, out, err⟩ ⟨n, .closingErr code, out.close, err⟩
  | closeErr {n : Nat} {out err : Pipe} {code : Int32} :
      Step ⟨n, .closingErr code, out, err⟩ ⟨n, .ended (.ok code), out, err.close⟩
  | copyOut {n : Nat} {producer : Producer} {out out' err : Pipe} (copy : out.Copy out') :
      Step ⟨n, producer, out, err⟩ ⟨n, producer, out', err⟩
  | copyErr {n : Nat} {producer : Producer} {out err err' : Pipe} (copy : err.Copy err') :
      Step ⟨n, producer, out, err⟩ ⟨n, producer, out, err'⟩

/-- **What polls and pipes can come to**, by any number of steps of any of the three. -/
def Reachable : Plumbing → Prop := Relation.ReflTransGen (Step next) .start

end

variable {next : Nat → Attempt Chunk} {s s' : Plumbing}

/-! ## Nobody waits for ever -/

/-- **The pipes are as the producer has left them**: shut down only by it, in order. -/
def Plumbing.Attended (s : Plumbing) : Prop :=
  match s.producer with
  | .polling | .writing _ | .closing _ => s.stdout.closed = false ∧ s.stderr.closed = false
  | .closingErr _ => s.stdout.closed = true ∧ s.stderr.closed = false
  | .ended _ => s.stdout.closed = true ∧ s.stderr.closed = true

theorem attended_step (h : Step next s s') (attended : s.Attended) : s'.Attended := by
  cases h with
  | polled brought => exact attended
  | failed broken => exact ⟨rfl, rfl⟩
  | writeOut write => exact ⟨write.closed.trans attended.1, attended.2⟩
  | writeErr written write => exact ⟨attended.1, write.closed.trans attended.2⟩
  | goOn writtenOut writtenErr unfinished => exact attended
  | finish writtenOut writtenErr done => exact attended
  | closeOut => exact ⟨rfl, attended.2⟩
  | closeErr => exact ⟨attended.1, rfl⟩
  | copyOut copy =>
    unfold Plumbing.Attended at attended ⊢
    simpa only [copy.closed] using attended
  | copyErr copy =>
    unfold Plumbing.Attended at attended ⊢
    simpa only [copy.closed] using attended

theorem Reachable.attended (h : Reachable next s) : s.Attended := by
  induction h with
  | refl => exact ⟨rfl, rfl⟩
  | tail _ step ih => exact attended_step step ih

/-- **Someone can go on** until all have ended. A producer that cannot write waits for a copy, and
that copy has something to take. -/
theorem Plumbing.exists_step (attended : s.Attended) (unended : s.answer? = none) :
    ∃ s', Step next s s' := by
  obtain ⟨n, producer, out, err⟩ := s
  cases producer with
  | polling =>
    cases polled : next n with
    | ok chunk => exact ⟨_, .polled polled⟩
    | error fault => exact ⟨_, .failed polled⟩
  | writing left =>
    obtain ⟨outOpened, errOpened⟩ := attended
    by_cases writtenOut : left.stdout = []
    · by_cases writtenErr : left.stderr = []
      · cases done : left.done with
        | false => exact ⟨_, .goOn writtenOut writtenErr done⟩
        | true => exact ⟨_, .finish writtenOut writtenErr done⟩
      · rcases Pipe.exists_write_or_copy errOpened writtenErr with ⟨p, rest, write⟩ | ⟨p, copy⟩
        · exact ⟨_, .writeErr writtenOut write⟩
        · exact ⟨_, .copyErr copy⟩
    · rcases Pipe.exists_write_or_copy outOpened writtenOut with ⟨p, rest, write⟩ | ⟨p, copy⟩
      · exact ⟨_, .writeOut write⟩
      · exact ⟨_, .copyOut copy⟩
  | closing code => exact ⟨_, .closeOut⟩
  | closingErr code => exact ⟨_, .closeErr⟩
  | ended answer =>
    obtain ⟨outClosed, errClosed⟩ := attended
    cases outEnded : out.ended with
    | false =>
      obtain ⟨p, copy⟩ := Pipe.exists_copy outClosed outEnded
      exact ⟨_, .copyOut copy⟩
    | true =>
      cases errEnded : err.ended with
      | false =>
        obtain ⟨p, copy⟩ := Pipe.exists_copy errClosed errEnded
        exact ⟨_, .copyErr copy⟩
      | true => simp [answer?, outEnded, errEnded] at unended

/-! ## Nothing is lost -/

/-- What draining the polls from number `n` to before number `m` makes of what was collected. -/
def drainFrom (next : Nat → Attempt Chunk) (past : LinkFault) (m n : Nat) (collected : Collected) :
    Attempt Outcome :=
  (drain next past 0 collected (List.range' n (m - n))).2

/-- What a chunk makes of what was collected, and the polls behind it if it is not the last. -/
def drainChunk (next : Nat → Attempt Chunk) (past : LinkFault) (m n : Nat) (collected : Collected)
    (chunk : Chunk) : Attempt Outcome :=
  if chunk.done then .ok ((collected.push chunk).outcome chunk.exitCode)
  else drainFrom next past m n (collected.push chunk)

/-- What went into both pipes. -/
def Plumbing.written (s : Plumbing) : Collected := ⟨[s.stdout.carried], [s.stderr.carried]⟩

/-- **What it will come to**: what one drain makes of the octets that were ever written, the rest of
the chunk at hand, and the polls from the next one to before number `m`. -/
def Plumbing.foresee (next : Nat → Attempt Chunk) (past : LinkFault) (m : Nat) (s : Plumbing) :
    Attempt Outcome :=
  match s.producer with
  | .polling => drainFrom next past m s.polls s.written
  | .writing left => drainChunk next past m s.polls s.written left
  | .closing code | .closingErr code | .ended (.ok code) => .ok (s.written.outcome (some code))
  | .ended (.error fault) => .error fault

theorem drainFrom_congr {a b : Collected} (same : a.Same b) (past : LinkFault) (m n : Nat) :
    drainFrom next past m n a = drainFrom next past m n b :=
  drain_congr past same 0 0 _

theorem drainChunk_congr {a b : Collected} {chunk chunk' : Chunk}
    (same : (a.push chunk).Same (b.push chunk')) (done : chunk.done = chunk'.done)
    (code : chunk.exitCode = chunk'.exitCode) (past : LinkFault) (m n : Nat) :
    drainChunk next past m n a chunk = drainChunk next past m n b chunk' := by
  unfold drainChunk
  rw [same.outcome, drainFrom_congr same, done, code]

theorem drainFrom_succ {m n : Nat} (short : n < m) (past : LinkFault) (collected : Collected) :
    drainFrom next past m n collected =
      match next n with
      | .error fault => .error fault
      | .ok chunk => drainChunk next past m (n + 1) collected chunk := by
  have more : m - n = (m - (n + 1)) + 1 := by omega
  unfold drainFrom drainChunk
  rw [more, List.range'_succ, drain]
  cases next n with
  | error fault => rfl
  | ok chunk =>
    simp only
    split
    · rfl
    · exact drain_congr past ⟨rfl, rfl⟩ _ _ _

theorem foresee_step (h : Step next s s') (past : LinkFault) {m : Nat} (short : s'.polls ≤ m) :
    s'.foresee next past m = s.foresee next past m := by
  cases h with
  | polled brought =>
    simp only [Plumbing.foresee, drainFrom_succ short, brought]
    rfl
  | failed broken => simp only [Plumbing.foresee, drainFrom_succ short, broken]
  | writeOut write =>
    simp only [Plumbing.foresee]
    refine drainChunk_congr ⟨?_, ?_⟩ (by rfl) (by rfl) past m _
    · simp [Plumbing.written, Collected.push, write.carried]
    · rfl
  | writeErr written write =>
    simp only [Plumbing.foresee]
    refine drainChunk_congr ⟨?_, ?_⟩ (by rfl) (by rfl) past m _
    · rfl
    · simp [Plumbing.written, Collected.push, write.carried]
  | goOn writtenOut writtenErr unfinished =>
    simp only [Plumbing.foresee, drainChunk, unfinished, Bool.false_eq_true, if_false]
    refine drainFrom_congr ⟨?_, ?_⟩ past m _
    · simp [Plumbing.written, Collected.push, writtenOut]
    · simp [Plumbing.written, Collected.push, writtenErr]
  | finish writtenOut writtenErr done =>
    simp only [Plumbing.foresee, drainChunk, done, if_true]
    simp [Plumbing.written, Collected.outcome, Collected.push, writtenOut, writtenErr]
  | closeOut => rfl
  | closeErr => rfl
  | copyOut copy => simp only [Plumbing.foresee, Plumbing.written, copy.carried]
  | copyErr copy => simp only [Plumbing.foresee, Plumbing.written, copy.carried]

theorem polls_le_of_step (h : Step next s s') : s.polls ≤ s'.polls := by
  cases h <;> simp

/-- **A run keeps what it will come to**, from the first poll on. -/
theorem Reachable.foresee (h : Reachable next s) (past : LinkFault) {m : Nat}
    (short : s.polls ≤ m) :
    s.foresee next past m = (drain next past 0 {} (List.range m)).2 := by
  induction h with
  | refl =>
    rw [List.range_eq_range']
    have nothing : Plumbing.start.written.Same {} := ⟨rfl, rfl⟩
    exact drain_congr past nothing 0 0 _
  | tail _ step ih =>
    rw [foresee_step step past short]
    exact ih (Nat.le_trans (polls_le_of_step step) short)

theorem Plumbing.foresee_of_answer {answer : Attempt Outcome} (ended : s.answer? = some answer)
    (past : LinkFault) (m : Nat) : s.foresee next past m = answer := by
  obtain ⟨n, producer, out, err⟩ := s
  unfold answer? at ended
  cases producer with
  | ended code =>
    by_cases copied : (out.ended && err.ended) = true
    · simp only [copied, if_true, Option.some.injEq] at ended
      subst ended
      obtain ⟨outEnded, errEnded⟩ := Bool.and_eq_true_iff.mp copied
      cases code with
      | error fault => rfl
      | ok code =>
        simp [foresee, written, Collected.outcome, Pipe.carried_of_ended outEnded,
          Pipe.carried_of_ended errEnded, Except.map]
    · simp [copied] at ended
  | _ => simp at ended

/-! ## Nobody goes on for ever -/

/-- **The last poll**: it fails, or finds the command finished. -/
def Ends (next : Nat → Attempt Chunk) (m : Nat) : Prop :=
  ∀ chunk, next m = .ok chunk → chunk.done = true

/-- No more polls are to come than those to number `m`. -/
def Plumbing.Within (s : Plumbing) (m : Nat) : Prop :=
  match s.producer with
  | .polling => s.polls ≤ m
  | .writing left => left.done = false → s.polls ≤ m
  | _ => True

theorem within_step {m : Nat} (ends : Ends next m) (h : Step next s s') (within : s.Within m) :
    s'.Within m := by
  cases h with
  | @polled n _ _ chunk brought =>
    intro unfinished
    have other : n ≠ m := by
      rintro rfl
      cases unfinished.symm.trans (ends chunk brought)
    exact Nat.lt_of_le_of_ne within other
  | goOn writtenOut writtenErr unfinished => exact within unfinished
  | writeOut write => exact within
  | writeErr written write => exact within
  | copyOut copy => exact within
  | copyErr copy => exact within
  | _ => trivial

theorem Reachable.within {m : Nat} (ends : Ends next m) (h : Reachable next s) : s.Within m := by
  induction h with
  | refl => exact Nat.zero_le m
  | tail _ step ih => exact within_step ends step ih

/-- A bound for what a poll brings with it: every octet is written once and taken out once. -/
def price : Attempt Chunk → Nat
  | .ok chunk => 2 * chunk.stdout.length + 2 * chunk.stderr.length + 4
  | .error _ => 4

/-- A bound for what the polls from number `n` to number `m` bring with them. -/
def prices (next : Nat → Attempt Chunk) (m n : Nat) : Nat :=
  (List.range' n (m + 1 - n)).foldr (fun i total => price (next i) + total) 0

theorem prices_eq_add {m n : Nat} (within : n ≤ m) :
    prices next m n = price (next n) + prices next m (n + 1) := by
  have more : m + 1 - n = (m + 1 - (n + 1)) + 1 := by omega
  unfold prices
  rw [more, List.range'_succ, List.foldr_cons]

/-- **How many steps are left at most**, if poll number `m` is the last one. -/
def Plumbing.toDo (next : Nat → Attempt Chunk) (m : Nat) (s : Plumbing) : Nat :=
  s.stdout.toDo + s.stderr.toDo +
    match s.producer with
    | .polling => prices next m s.polls
    | .writing left =>
      2 * left.stdout.length + 2 * left.stderr.length + 3 + prices next m s.polls
    | .closing _ => 2
    | .closingErr _ => 1
    | .ended _ => 0

theorem toDo_lt_of_step {m : Nat} (h : Step next s s') (within : s.Within m) :
    s'.toDo next m < s.toDo next m := by
  cases h with
  | polled brought =>
    simp only [Plumbing.toDo, prices_eq_add within, brought, price]
    omega
  | failed broken =>
    simp only [Plumbing.toDo, prices_eq_add within, broken, price, Pipe.toDo_close]
    omega
  | writeOut write =>
    obtain ⟨n, first, taken, put⟩ := write.toDo
    simp only [Plumbing.toDo]
    omega
  | writeErr written write =>
    obtain ⟨n, first, taken, put⟩ := write.toDo
    simp only [Plumbing.toDo]
    omega
  | goOn writtenOut writtenErr unfinished =>
    simp only [Plumbing.toDo]
    omega
  | finish writtenOut writtenErr done =>
    simp only [Plumbing.toDo]
    omega
  | closeOut =>
    simp only [Plumbing.toDo, Pipe.toDo_close]
    omega
  | closeErr =>
    simp only [Plumbing.toDo, Pipe.toDo_close]
    omega
  | copyOut copy =>
    have := copy.toDo_lt
    simp only [Plumbing.toDo]
    omega
  | copyErr copy =>
    have := copy.toDo_lt
    simp only [Plumbing.toDo]
    omega

/-- **Every run ends** where some poll is the last one, since every step leaves fewer. -/
theorem acc_of_ends {m : Nat} (ends : Ends next m) (within : s.Within m) :
    Acc (fun after before => Step next before after) s := by
  induction left : s.toDo next m using Nat.strongRecOn generalizing s with
  | ind n ih =>
    refine ⟨s, fun s' step => ?_⟩
    have fewer : s'.toDo next m < n := left ▸ toDo_lt_of_step step within
    exact ih _ fewer (within_step ends step within) rfl

/-! ## What a run comes to -/

/-- The polls before number `m`, around number `k`. -/
theorem range_eq_append_cons {k m : Nat} (h : k < m) :
    List.range m = List.range k ++ k :: List.range' (k + 1) (m - (k + 1)) := by
  have whole : m = k + ((m - (k + 1)) + 1) := by omega
  rw [← List.range'_succ, List.range_eq_range', List.range_eq_range']
  conv_lhs => rw [whole, ← List.range'_append_1, Nat.zero_add]

/-- **Pipes lose nothing and never jam**: in whatever order the polls, the writes and the copies go
on, and by however many octets at a time, someone can go on until all have ended, and what they come
to then is what draining the polls one after another comes to. That is the octets of all chunks up to
the first one that finds the command finished, put together in order, and its code; or the fault of
the first poll that fails, if that comes before. Where there is such a chunk or fault, every run
ends. -/
theorem pipes_drain (reached : Reachable next s) :
    (s.answer? = none → ∃ s', Step next s s') ∧
    (∀ answer, s.answer? = some answer →
      (∀ past m, s.polls ≤ m → answer = (drain next past 0 {} (List.range m)).2) ∧
      ∀ chunks, Unfinished next (List.range chunks.length) chunks →
        (∀ last, next chunks.length = .ok last → last.done = true →
          answer = .ok (Chunk.together (chunks ++ [last]) last.exitCode)) ∧
        ∀ fault, next chunks.length = .error fault → answer = .error fault) ∧
    ∀ m, Ends next m → Acc (fun after before => Step next before after) s := by
  refine ⟨Plumbing.exists_step reached.attended, ?_, ?_⟩
  · intro answer ended
    have drained (past : LinkFault) (m : Nat) (short : s.polls ≤ m) :
        answer = (drain next past 0 {} (List.range m)).2 :=
      (Plumbing.foresee_of_answer ended past m).symm.trans (reached.foresee past short)
    refine ⟨drained, fun chunks unfinished => ?_⟩
    have past : LinkFault := .execution ""
    let m := s.polls + chunks.length + 1
    have around := range_eq_append_cons (show chunks.length < m by omega)
    have whole := drained past m (by omega)
    rw [around] at whole
    refine ⟨fun last polled done => ?_, fun fault polled => ?_⟩
    · rw [whole, drain_finished past unfinished polled done]
    · rw [whole, drain_failed past unfinished polled]
  · intro m ends
    exact acc_of_ends ends (reached.within ends)

/-- A chunk of two octets, and a last one with an octet for the other stream. -/
def samplePolls : Nat → Attempt Chunk
  | 0 => .ok { stdout := [104, 105] }
  | _ => .ok { stderr := [33], exitCode := some 3, done := true }

/-- A run in which one copy takes part of a chunk before the rest of it is written, and goes on only
when the producer and the other copy have ended. -/
theorem pipes_drain_sample :
    ∃ s, Reachable samplePolls s ∧ s.answer? = some (.ok ⟨"hi", "!", 3⟩) ∧
      .ok ⟨"hi", "!", 3⟩ = (drain samplePolls (.execution "") 0 {} (List.range 2)).2 := by
  have begun : Reachable samplePolls ⟨0, .polling, {}, {}⟩ := .refl
  have first := begun.tail (.polled rfl)
  have cut := first.tail (.writeOut (.some _ _ 1 rfl (by decide) (by decide) (by decide)))
  have taken := cut.tail (.copyOut (.some _ 1 (by decide) (by decide)))
  have whole := taken.tail (.writeOut (.some _ _ 1 rfl (by decide) (by decide) (by decide)))
  have second := (whole.tail (.goOn rfl rfl rfl)).tail (.polled rfl)
  have other := second.tail (.writeErr rfl (.some _ _ 1 rfl (by decide) (by decide) (by decide)))
  have closed := ((other.tail (.finish rfl rfl rfl)).tail .closeOut).tail .closeErr
  have copiedErr := (closed.tail (.copyErr (.some _ 1 (by decide) (by decide)))).tail
    (.copyErr (.finish _ rfl rfl rfl))
  have copied := (copiedErr.tail (.copyOut (.some _ 1 (by decide) (by decide)))).tail
    (.copyOut (.finish _ rfl rfl rfl))
  have text : Utf8.decodeLossy [104, 105] = "hi" ∧ Utf8.decodeLossy [33] = "!" := by decide +kernel
  refine ⟨_, copied, ?_, ?_⟩
  · rw [← text.1, ← text.2]
    rfl
  · refine ((pipes_drain copied).2.1 _ ?_).1 (.execution "") 2 (by decide)
    rw [← text.1, ← text.2]
    rfl

/-! ## The polls of a wire -/

/-- What poll number `i` brings on a wire. -/
def Wire.polled (w : Wire) (endpoint : String) (i : Nat) : Attempt Chunk :=
  match w.turns[i]? with
  | some turn => turn.poll endpoint
  | none => .error (w.ending.pollFault endpoint)

/-- Turns can be drained by their numbers. -/
theorem drain_range' {τ : Type} (poll : τ → Attempt Chunk) (past past' : LinkFault)
    {turns : List τ} {n m : Nat} (short : turns.length < m)
    (brings : ∀ i, next (n + i) = (turns[i]?.map poll).getD (.error past)) (k l : Nat)
    (collected : Collected) :
    (drain next past' k collected (List.range' n m)).2 = (drain poll past l collected turns).2 := by
  induction turns generalizing n m k l collected with
  | nil =>
    obtain ⟨m, rfl⟩ := Nat.exists_eq_add_one_of_ne_zero (Nat.ne_of_gt short)
    have first : next n = .error past := brings 0
    simp only [List.range'_succ, drain, first]
  | cons turn turns ih =>
    obtain ⟨m, rfl⟩ := Nat.exists_eq_add_one_of_ne_zero (Nat.ne_of_gt (Nat.zero_lt_of_lt short))
    have first : next n = poll turn := brings 0
    have rest (i : Nat) : next (n + 1 + i) = (turns[i]?.map poll).getD (.error past) := by
      have := brings (i + 1)
      rwa [List.getElem?_cons_succ, ← Nat.add_assoc, Nat.add_right_comm] at this
    rw [List.range'_succ, drain, drain, first]
    cases poll turn with
    | error fault => rfl
    | ok chunk =>
      simp only
      split
      · rfl
      · exact ih (Nat.lt_of_succ_lt_succ short) rest _ _ _

/-- **Draining a wire** comes to what its polls, the pipes and the copies come to. -/
theorem Wire.drain_of_answer {w : Wire} {endpoint : String} {answer : Attempt Outcome}
    (reached : Reachable (w.polled endpoint) s) (ended : s.answer? = some answer)
    (shell command : String) : (Wire.drain endpoint shell command w).1 = answer := by
  have past : LinkFault := .execution ""
  have seen := reached.foresee past (show s.polls ≤ s.polls + w.turns.length + 1 by omega)
  rw [Plumbing.foresee_of_answer ended, List.range_eq_range'] at seen
  rw [seen]
  refine (drain_range' _ _ past (by omega) (fun i => ?_) 0 0 {}).symm
  rw [Nat.zero_add, Wire.polled]
  cases w.turns[i]? <;> rfl

/-- The polls of a wire end with the last turn, if not before. -/
theorem Wire.polled_ends (w : Wire) (endpoint : String) :
    Ends (w.polled endpoint) w.turns.length := by
  intro chunk polled
  rw [Wire.polled, List.getElem?_eq_none (Nat.le_refl _)] at polled
  cases polled

end Hostlink.WinRm
