import Hostlink.Ssh.Connection
import Mathlib.Data.List.TakeWhile

/-!
# What a channel's messages come to

Three things are read off the messages of a command, each on its own: the octets of either stream,
in the order in which they came, and the last report of how the command ended. `collect_eq` says
that gathering the messages up to the first close in one pass comes to these three.

None of the three tells whether the command ended at all. A session that is lost in the middle of a
command leaves what has come by then, maybe nothing, without a report and without an end, and
`run_of_lost_session` says what becomes of it: the very outcome that a server gives which closes the
channel at that point, with the return code zero. `lost_session_taken_for_success` is such a run.
-/

namespace Hostlink.Ssh

namespace Message

/-- The octets that a message adds to the standard output. -/
def stdout : Message → Bytes
  | .data bytes => bytes
  | .extended .. | .exitStatus _ | .exitSignal _ => []
  | .eof | .success | .failure | .other | .close => []

/-- The octets that a message adds to the standard error. -/
def stderr : Message → Bytes
  | .extended stream bytes => if stream = 1 then bytes else []
  | .data _ | .exitStatus _ | .exitSignal _ => []
  | .eof | .success | .failure | .other | .close => []

/-- The exit code that a message reports, if it reports how the command ended. -/
def report? : Message → Option Int32
  | .exitStatus status => some status.toInt32
  | .exitSignal _ => some signalExitCode
  | .data _ | .extended .. | .eof | .success | .failure | .other | .close => none

/-- Whether a message ends something: the command, its output or the channel. -/
def isEnd : Message → Bool
  | .exitStatus _ | .exitSignal _ | .eof | .close => true
  | .data _ | .extended .. | .success | .failure | .other => false

theorem ne_close_of_not_isEnd {m : Message} (h : m.isEnd = false) : m ≠ .close := by
  rintro rfl
  cases h

theorem report?_of_not_isEnd {m : Message} (h : m.isEnd = false) : m.report? = none := by
  cases m with
  | exitStatus | exitSignal => cases h
  | data | extended | eof | success | failure | other | close => rfl

end Message

/-! ## Gathering -/

namespace Gathered

/-- What one message does to what was gathered. -/
theorem push_eq (g : Gathered) (m : Message) :
    (g.push m).stdout.reverse.flatten = g.stdout.reverse.flatten ++ m.stdout ∧
      (g.push m).stderr.reverse.flatten = g.stderr.reverse.flatten ++ m.stderr ∧
      (g.push m).exitCode = m.report?.or g.exitCode := by
  cases m with
  | data bytes => simp [push, Message.stdout, Message.stderr, Message.report?]
  | extended stream bytes =>
    by_cases h : stream = 1
    · subst h
      simp [push, Message.stdout, Message.stderr, Message.report?]
    · simp [push, Message.stdout, Message.stderr, Message.report?, h]
  | exitStatus | exitSignal | eof | success | failure | other | close =>
    simp [push, Message.stdout, Message.stderr, Message.report?]

/-- **Gathering is three readings side by side.** By induction on the messages, with what was
gathered before them general. -/
theorem foldl_push (messages : List Message) (g : Gathered) :
    (messages.foldl push g).stdout.reverse.flatten =
        g.stdout.reverse.flatten ++ messages.flatMap (·.stdout) ∧
      (messages.foldl push g).stderr.reverse.flatten =
        g.stderr.reverse.flatten ++ messages.flatMap (·.stderr) ∧
      (messages.foldl push g).exitCode =
        (messages.filterMap (·.report?)).getLast?.or g.exitCode := by
  induction messages generalizing g with
  | nil => simp
  | cons m messages ih =>
    obtain ⟨out, err, code⟩ := push_eq g m
    obtain ⟨outs, errs, codes⟩ := ih (g.push m)
    refine ⟨?_, ?_, ?_⟩
    · rw [List.foldl_cons, outs, out, List.flatMap_cons, List.append_assoc]
    · rw [List.foldl_cons, errs, err, List.flatMap_cons, List.append_assoc]
    · rw [List.foldl_cons, codes, code]
      cases report : m.report? with
      | none => rw [List.filterMap_cons_none report, Option.none_or]
      | some c =>
        -- a later report wins over this one, and this one over what was gathered before
        rw [List.filterMap_cons_some report, List.getLast?_cons]
        cases (messages.filterMap (·.report?)).getLast? <;> rfl

end Gathered

/-- **What messages come to**: the octets of either stream up to the first close, read as text when
they are all together, and the last report among them, or zero without one. -/
theorem collect_eq (messages : List Message) :
    collect messages =
      let before := messages.takeWhile (· != .close)
      ⟨Utf8.decodeLossy (before.flatMap (·.stdout)), Utf8.decodeLossy (before.flatMap (·.stderr)),
        (before.filterMap (·.report?)).getLast?.getD 0⟩ := by
  obtain ⟨out, err, code⟩ := Gathered.foldl_push (messages.takeWhile (· != .close)) {}
  simp only [collect, Gathered.outcome, out, err, code, List.reverse_nil, List.flatten_nil,
    List.nil_append, Option.or_none]

/-- Messages of which none ends anything come to their octets, and to zero. -/
theorem collect_of_no_end {messages : List Message} (unended : ∀ m ∈ messages, m.isEnd = false) :
    collect messages =
      ⟨Utf8.decodeLossy (messages.flatMap (·.stdout)),
        Utf8.decodeLossy (messages.flatMap (·.stderr)), 0⟩ := by
  have all : messages.takeWhile (· != .close) = messages :=
    List.takeWhile_eq_self_iff.mpr fun m hm =>
      bne_iff_ne.mpr (Message.ne_close_of_not_isEnd (unended m hm))
  have silent : messages.filterMap (·.report?) = [] :=
    List.filterMap_eq_nil_iff.mpr fun m hm => Message.report?_of_not_isEnd (unended m hm)
  rw [collect_eq]
  simp only [all, silent, List.getLast?_nil, Option.getD_none]

/-- What comes after a close changes nothing, and neither does a close at the end. -/
theorem collect_append_close (messages : List Message) :
    collect (messages ++ [.close]) = collect messages := by
  have same : (messages ++ [Message.close]).takeWhile (· != .close) =
      messages.takeWhile (· != .close) := by
    rw [List.takeWhile_append]
    split
    next whole =>
      -- no close stands before the last one, which is not taken either
      rw [(List.takeWhile_prefix _).eq_of_length whole]
      exact List.append_nil _
    next => rfl
  rw [collect, collect, same]

/-! ## A session that is lost -/

/-- A command that runs on the next channel comes to the messages that have come on it, whether or not
the session is lost behind them. -/
theorem Wire.exec_of_opened {w : Wire} (live : w.lost = false) {written : List Message}
    {loss : Option Nat} {later : List Opening} (next : w.openings = .opened written loss :: later)
    (text : String) :
    Wire.exec text w = (.ok (collect (arriving written loss)),
      { w with
        openings := later, lost := loss.isSome
        events := w.events ++ [.opening true, .exec text] }) := by
  simp only [Wire.exec, live, Bool.false_eq_true, if_false, next]

/-- On an open session a command is held against what its channel comes to. -/
theorem Connection.run_of_opened (w : Wire) (live : w.lost = false) {written : List Message}
    {loss : Option Nat} {later : List Opening} (next : w.openings = .opened written loss :: later)
    (session : Session) (host : String) (command : Command) :
    (Connection.run ⟨.connected, some session, host⟩ command w).1 =
      command.check (collect (arriving written loss)) := by
  show (StateT.bind (Wire.exec command.text) _ w).1 = _
  simp only [StateT.bind, Wire.exec_of_opened live next]
  rfl

/-- **A lost session counts as the return code zero**: where the session is lost in the middle of a
command, however many messages have come by then, and none of them told of an end, the command comes
to what was read of its output so far and to zero. It is a success for whoever expects zero, and for
all others a failure with a code that nobody has sent. A server that closes the channel at that point
gets the same answer. -/
theorem run_of_lost_session (written : List Message) (count : Nat)
    (unended : ∀ m ∈ written.take count, m.isEnd = false) {w : Wire} (live : w.lost = false)
    {later : List Opening} (next : w.openings = .opened written (some count) :: later)
    (session : Session) (host : String) (command : Command) :
    let received := written.take count
    let out := Utf8.decodeLossy (received.flatMap (·.stdout))
    let err := Utf8.decodeLossy (received.flatMap (·.stderr))
    let closing := { w with openings := .opened (received ++ [.close]) none :: later }
    let answer := (Connection.run ⟨.connected, some session, host⟩ command w).1
    answer =
        (if command.expectedCode = 0 then .ok ⟨out, err, 0⟩
          else .error (.commandFailed command.text 0 err)) ∧
      answer = (Connection.run ⟨.connected, some session, host⟩ command closing).1 := by
  intro received out err closing answer
  have taken : answer = command.check (collect received) :=
    Connection.run_of_opened w live next session host command
  constructor
  · rw [taken, collect_of_no_end unended]
    simp only [Command.check, eq_comm (a := (0 : Int32)), out, err, received]
  · have closed : collect (arriving (received ++ [.close]) none) = collect received :=
      collect_append_close received
    rw [taken, Connection.run_of_opened closing live rfl session host command, closed]

/-- Part of what a command writes, and then nothing more. -/
def Message.fragments : List Message :=
  [.data [99, 111, 112, 105, 101, 100, 32, 51], .extended 1 [115, 108, 111, 119]]

/-- A server on which the session is lost while a command writes: one message has come. -/
def Wire.losing : Wire where
  later := .stalled
  openings := [.opened Message.fragments (some 1)]

/-- A server that goes away before anything of what a command writes has come. -/
def Wire.vanishing : Wire where
  later := .stalled
  openings := [.opened Message.fragments (some 0)]

def Session.sample : Session := ⟨⟨"deploy", .password "s3cret"⟩⟩

theorem run_of_lost_session_sample :
    let answer := (Connection.run ⟨.connected, some .sample, "host"⟩ { text := "copy" } .losing).1
    answer = .ok ⟨"copied 3", "", 0⟩ ∧
      answer = (Connection.run ⟨.connected, some .sample, "host"⟩ { text := "copy" }
        { Wire.losing with openings := [.opened (Message.fragments.take 1 ++ [.close]) none] }).1 :=
  run_of_lost_session Message.fragments 1 (by decide) rfl rfl .sample "host" { text := "copy" }

/-- **A lost session taken for a success**: nothing told of an end of the command, the session is
lost, and the caller is told that the command has returned zero. So it is where nothing has come at
all, and where a part of the output has. -/
theorem lost_session_taken_for_success :
    let run (w : Wire) := Connection.run ⟨.connected, some .sample, "host"⟩ { text := "copy" } w
    (∀ m ∈ Message.fragments, m.isEnd = false) ∧
      (run .vanishing).2.lost = true ∧ (run .vanishing).1.toOption = some ⟨"", "", 0⟩ ∧
      (run .losing).2.lost = true ∧ (run .losing).1.toOption = some ⟨"copied 3", "", 0⟩ := by
  decide +kernel

end Hostlink.Ssh
