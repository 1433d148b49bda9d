import Hostlink.Connection
import Hostlink.Proofs.Ssh.Channel
import Hostlink.Proofs.WinRm.Capture
import Hostlink.Proofs.WinRm.Handshake

/-!
# What a failed command says of the target

A command can fail in two ways, and they are told apart by the fault. Either nothing can be said of
how the command ended, because an exchange broke or a reply made no sense: the fault is then
`Broken`. Or the command was held against its return code, and the fault says which code the target
returned. There is no third way on either transport.

A code other than zero is the target's own. Over WinRM some reply to a poll says that the command of
a line is done and states that code; by SSH it is the last report of the channel. Zero need not be
its own, since a command that ends without a code counts as zero, so what is said here of a code is
said of codes other than zero.
-/

namespace Hostlink

/-- **A fault that says nothing of how a command ended.** -/
inductive LinkFault.Broken : LinkFault → Prop
  | http (endpoint : String) (layers : List String) (root : Option IoFault) :
      Broken (.http endpoint layers root)
  | authentication (reason : String) : Broken (.authentication reason)
  | execution (reason : String) : Broken (.execution reason)
  | encoding (reason : String) : Broken (.encoding reason)

/-- **How a command fails**, where `reported` says which codes the target has reported. -/
inductive Command.Failure (command : Command) (reported : Int32 → Prop) : LinkFault → Prop
  /-- Nothing is known of how it ended. -/
  | broken {fault : LinkFault} (h : fault.Broken) : Failure command reported fault
  /-- It returned a code that it must not return. -/
  | returned {text stderr : String} {code : Int32}
      (unexpected : command.expectedCode = 0 → code ≠ 0) (own : code ≠ 0 → reported code) :
      Failure command reported (.commandFailed text code stderr)

theorem Command.Failure.imp {command command' : Command} {reported reported' : Int32 → Prop}
    {fault : LinkFault} (h : command.Failure reported fault)
    (plain : command'.expectedCode = 0 → command.expectedCode = 0)
    (own : ∀ code, reported code → reported' code) : command'.Failure reported' fault := by
  cases h with
  | broken h => exact .broken h
  | returned unexpected told =>
    exact .returned (fun h => unexpected (plain h)) fun nonzero => own _ (told nonzero)

/-- Holding an outcome against a command fails with the code of the outcome. -/
theorem Command.failure_of_check {command : Command} {reported : Int32 → Prop} {o : Outcome}
    (own : o.exitCode ≠ 0 → reported o.exitCode) {fault : LinkFault}
    (h : command.check o = .error fault) : command.Failure reported fault := by
  unfold check at h
  split at h
  next => cases h
  next unexpected =>
    cases h
    exact .returned (fun plain => plain ▸ unexpected) own

namespace WinRm

/-! ## Faults of an exchange -/

variable {t : Turn} {endpoint : String}

theorem Turn.broken_of_response {fault : LinkFault} (h : t.response endpoint = .error fault) :
    fault.Broken := by
  rcases Turn.fault_of_response h with ⟨layers, root, rfl, _⟩ | ⟨reason, rfl⟩
  · exact .http endpoint layers root
  · exact .authentication reason

theorem Turn.broken_of_call {fault : LinkFault} (h : t.call endpoint = .error fault) :
    fault.Broken := by
  unfold call at h
  cases answered : t.response endpoint with
  | error inner =>
    simp only [answered] at h
    cases h
    exact Turn.broken_of_response answered
  | ok r =>
    simp only [answered] at h
    split at h
    next => cases h
    next =>
      cases h
      exact .execution _

theorem broken_of_decodeStream {name reply : String} {fault : LinkFault}
    (h : decodeStream name reply = .error fault) : fault.Broken := by
  unfold decodeStream at h
  split at h
  next => cases h
  next =>
    cases h
    exact .encoding _

theorem broken_of_receiveChunk {reply : String} {fault : LinkFault}
    (h : receiveChunk reply = .error fault) : fault.Broken := by
  unfold receiveChunk at h
  cases out : decodeStream "stdout" reply with
  | error inner =>
    rw [out] at h
    cases h
    exact broken_of_decodeStream out
  | ok stdout =>
    cases err : decodeStream "stderr" reply with
    | error inner =>
      rw [out, err] at h
      cases h
      exact broken_of_decodeStream err
    | ok stderr =>
      simp only [out, err] at h
      cases stated : elementText? "rsp:ExitCode" reply.toList with
      | none => simp only [stated] at h; cases h
      | some content =>
        simp only [stated] at h
        cases read : Text.Integer.readInt32 (Text.trimChars content) with
        | ok code => rw [read] at h; cases h
        | error inner =>
          rw [read] at h
          cases h
          exact .execution _

theorem Turn.broken_of_poll {fault : LinkFault} (h : t.poll endpoint = .error fault) :
    fault.Broken := by
  unfold poll at h
  cases answered : t.response endpoint with
  | error inner =>
    simp only [answered] at h
    cases h
    exact Turn.broken_of_response answered
  | ok r =>
    simp only [answered] at h
    split at h
    next => exact broken_of_receiveChunk h
    next =>
      split at h
      next => cases h
      next =>
        cases h
        exact .execution _

theorem Turn.broken_of_startedCommand {fault : LinkFault}
    (h : t.startedCommand endpoint = .error fault) : fault.Broken := by
  unfold startedCommand at h
  split at h
  next inner called =>
    cases h
    exact Turn.broken_of_call called
  next reply called =>
    unfold commandId at h
    split at h
    next => cases h
    next =>
      cases h
      exact .execution _

/-- A poll that finds a command finished is answered by a report that says so. -/
theorem Turn.delivers_of_poll {chunk : Chunk} (h : t.poll endpoint = .ok chunk)
    (done : chunk.done = true) :
    ∃ stdout stderr, t.Delivers endpoint stdout stderr chunk.exitCode true := by
  unfold poll at h
  cases answered : t.response endpoint with
  | error fault => simp only [answered] at h; cases h
  | ok r =>
    simp only [answered] at h
    split at h
    next success =>
      obtain ⟨stdout, stderr, report, _, _⟩ := receiveChunk_eq_ok_iff.mp h
      exact ⟨stdout, stderr, r, answered, success, done ▸ report⟩
    next =>
      split at h
      next =>
        cases h
        cases done
      next => cases h

/-! ## The verdict on a line -/

/-- **The target reports a code**: in the log, a line was started as a command, and a reply to a poll
of that command says that it is done and states the code. -/
def ReportedCode (log : List Exchange) (code : Int32) : Prop :=
  ∃ (endpoint shell line id : String) (start poll : Turn) (stdout stderr : List Bytes),
    (⟨endpoint, .command shell line, start⟩ : Exchange) ∈ log ∧
      start.startedCommand endpoint = .ok id ∧
    (⟨endpoint, .receive shell id, poll⟩ : Exchange) ∈ log ∧
      poll.Delivers endpoint stdout stderr (some code) true

theorem ReportedCode.of_subset {log log' : List Exchange} {code : Int32} (h : ReportedCode log code)
    (inside : log ⊆ log') : ReportedCode log' code := by
  obtain ⟨endpoint, shell, line, id, start, poll, stdout, stderr, asked, started, polled, delivers⟩ := h
  exact ⟨endpoint, shell, line, id, start, poll, stdout, stderr, inside asked, started,
    inside polled, delivers⟩

/-- Polls that end without a fault end with a report, whose code is that of the outcome. -/
theorem Polling.last_delivers {collected : Collected} {polls : List Turn} {o : Outcome}
    (h : Polling endpoint collected polls (.ok o)) :
    ∃ poll ∈ polls, ∃ stdout stderr code, poll.Delivers endpoint stdout stderr code true ∧
      o.exitCode = code.getD 0 := by
  generalize ended : Except.ok o = outcome at h
  induction h with
  | failed => cases ended
  | @finished collected turn chunk polled done =>
    cases ended
    obtain ⟨stdout, stderr, delivers⟩ := Turn.delivers_of_poll polled done
    exact ⟨turn, List.mem_cons_self, stdout, stderr, chunk.exitCode, delivers, rfl⟩
  | unfinished _ _ _ ih =>
    obtain ⟨poll, later, found⟩ := ih ended
    exact ⟨poll, .tail _ later, found⟩

theorem Polling.broken {collected : Collected} {polls : List Turn} {fault : LinkFault}
    (h : Polling endpoint collected polls (.error fault)) : fault.Broken := by
  generalize ended : Except.error fault = outcome at h
  induction h with
  | failed polled =>
    cases ended
    exact Turn.broken_of_poll polled
  | finished => cases ended
  | unfinished _ _ _ ih => exact ih ended

namespace LineCourse

theorem broken_of_outcome {c : LineCourse endpoint} {fault : LinkFault}
    (h : c.outcome = .error fault) : fault.Broken := by
  cases c with
  | refused line start inner answered =>
    cases h
    exact Turn.broken_of_startedCommand answered
  | started line start id polls outcome stop answered polled =>
    cases h
    exact polled.broken

/-- **A code other than zero is the target's own.** -/
theorem reported_of_outcome {c : LineCourse endpoint} {o : Outcome} (h : c.outcome = .ok o)
    (nonzero : o.exitCode ≠ 0) (shell : String) :
    ReportedCode (c.exchanges shell) o.exitCode := by
  cases c with
  | refused => cases h
  | started line start id polls outcome stop answered polled =>
    cases h
    obtain ⟨poll, among, stdout, stderr, code, delivers, same⟩ := polled.last_delivers
    cases code with
    | none => exact absurd same nonzero
    | some code =>
      rw [same]
      refine ⟨endpoint, shell, line, id, start, poll, stdout, stderr, List.mem_cons_self, answered,
        .tail _ (List.mem_append_left _ ?_), delivers⟩
      exact List.mem_map.mpr ⟨poll, among, rfl⟩

end LineCourse

/-! ## The verdict on a command -/

theorem LineCourse.failure_of_outcome {c : LineCourse endpoint} {command : Command} {shell : String}
    {sent : List Exchange} (inside : c.exchanges shell ⊆ sent) {fault : LinkFault}
    (h : c.outcome.bind command.check = .error fault) :
    command.Failure (ReportedCode sent) fault := by
  cases came : c.outcome with
  | error inner =>
    rw [came] at h
    cases h
    exact .broken (LineCourse.broken_of_outcome came)
  | ok o =>
    rw [came] at h
    exact Command.failure_of_check
      (fun nonzero => (LineCourse.reported_of_outcome came nonzero shell).of_subset inside) h

/-- **A course of lines comes to what one of them came to**: the outcome of the line behind the
steps, or the fault of a step. By induction on the lines sent. -/
theorem outcomeAfter_eq {lines : List String} {cs : List (LineCourse endpoint)}
    (h : Stepwise lines cs) (steps : Nat) (few : steps < lines.length) :
    ∃ c ∈ cs, outcomeAfter steps cs = c.outcome ∨
      ∃ fault, outcomeAfter steps cs = .error fault ∧ c.step = .error fault := by
  induction h generalizing steps with
  | done => exact absurd few (Nat.not_lt_zero _)
  | @stopped line lines c same failed =>
    refine ⟨c, List.mem_cons_self, ?_⟩
    cases steps with
    | zero => exact .inl rfl
    | succ steps =>
      cases came : c.step with
      | ok o => exact absurd (c.succeeded_iff.mpr ⟨o, came⟩) failed
      | error fault =>
        refine .inr ⟨fault, ?_, rfl⟩
        simp only [outcomeAfter, came]
  | @next line lines c cs same succeeded tail ih =>
    cases steps with
    | zero => exact ⟨c, List.mem_cons_self, .inl rfl⟩
    | succ steps =>
      obtain ⟨d, among, came⟩ := ih steps (Nat.lt_of_succ_lt_succ few)
      obtain ⟨o, ok⟩ := c.succeeded_iff.mp succeeded
      refine ⟨d, .tail _ among, ?_⟩
      simp only [outcomeAfter, ok]
      exact came

/-- A step is held against zero, whatever its command expects. -/
theorem LineCourse.failure_of_step {c : LineCourse endpoint} {command : Command} {shell : String}
    {sent : List Exchange} (inside : c.exchanges shell ⊆ sent) {fault : LinkFault}
    (h : c.step = .error fault) : command.Failure (ReportedCode sent) fault := by
  have failed := LineCourse.failure_of_outcome inside (c.step_eq_bind ▸ h)
  exact failed.imp (fun _ => rfl) fun _ own => own

/-- **How a command that is run in a session fails.** -/
theorem Session.run_failure (s : Session) (id : String) (command : Command) (w : Wire) :
    ∃ answer sent w', Sends (s.run id command) w answer sent w' ∧
      ∀ fault, answer = .error fault → command.Failure (ReportedCode sent) fault := by
  cases plan : Plan.ofCommand id command with
  | single line =>
    obtain ⟨c, w', _, h⟩ := s.run_single plan w
    exact ⟨_, _, w', h, fun fault failed =>
      LineCourse.failure_of_outcome (List.Subset.refl _) failed⟩
  | staged script =>
    obtain ⟨c, w', h⟩ := s.run_staged plan w
    refine ⟨_, _, w', h, fun fault failed => ?_⟩
    have few : script.setUpLines.length < script.lines.length := by
      rw [StagedScript.lines, List.length_append, List.length_singleton]
      exact Nat.lt_succ_self _
    obtain ⟨line, among, came⟩ := outcomeAfter_eq c.inOrder _ few
    have inside : line.exchanges s.shell ⊆ c.exchanges s.shell := by
      intro e sent
      exact List.mem_flatMap.mpr ⟨line, List.mem_append_left _ among, sent⟩
    rw [StagedCourse.outcome] at failed
    rcases came with came | ⟨inner, came, step⟩
    · rw [came] at failed
      exact LineCourse.failure_of_outcome inside failed
    · rw [came] at failed
      cases failed
      exact LineCourse.failure_of_step inside step

/-- A command is refused where there is no session that takes it, and otherwise it is run in the
session. -/
theorem Connection.run_verdict (c : Connection) (id : String) (command : Command) (w : Wire) :
    (¬ (c.phase = .connected ∧ c.session.isSome) ∧ c.run id command w = (.error .notConnected, w)) ∨
      (c.phase = .connected ∧ c.session.isSome) ∧
        ∃ answer sent w', Sends (c.run id command) w answer sent w' ∧
          ∀ fault, answer = .error fault → command.Failure (ReportedCode sent) fault := by
  obtain ⟨phase, session, host⟩ := c
  cases phase with
  | disconnected | suspended =>
    refine .inl ⟨?_, rfl⟩
    rintro ⟨⟨⟩, _⟩
  | connected =>
    cases session with
    | none =>
      refine .inl ⟨?_, rfl⟩
      rintro ⟨_, ⟨⟩⟩
    | some session => exact .inr ⟨⟨rfl, rfl⟩, session.run_failure id command w⟩

end WinRm

/-! ## Verdicts by SSH -/

namespace Ssh

/-- **The target reports a code** between two states of the wire: a command was run on a channel of
its own, and of what has come on it the last report before the close states the code. -/
def ReportedCode (w w' : Wire) (code : Int32) : Prop :=
  ∃ (line : String) (written : List Message) (loss : Option Nat),
    w'.events = w.events ++ [.opening true, .exec line] ∧
    w.openings = .opened written loss :: w'.openings ∧
    (((arriving written loss).takeWhile (· != .close)).filterMap (·.report?)).getLast? = some code

theorem reported_of_collect {messages : List Message} (nonzero : (collect messages).exitCode ≠ 0) :
    ((messages.takeWhile (· != .close)).filterMap (·.report?)).getLast? =
      some (collect messages).exitCode := by
  rw [collect_eq] at nonzero ⊢
  simp only at nonzero ⊢
  cases last : ((messages.takeWhile (· != .close)).filterMap (·.report?)).getLast? with
  | none =>
    rw [last] at nonzero
    exact absurd rfl nonzero
  | some code => rfl

/-- A channel comes to a fault that says nothing of the command, or to an outcome whose code is the
target's own unless it is zero. -/
theorem Wire.exec_verdict (line : String) (w : Wire) :
    (∃ fault, (Wire.exec line w).1 = .error fault ∧ fault.Broken) ∨
      ∃ o, (Wire.exec line w).1 = .ok o ∧
        (o.exitCode ≠ 0 → ReportedCode w (Wire.exec line w).2 o.exitCode) := by
  unfold Wire.exec
  cases w.lost with
  | true => exact .inl ⟨_, rfl, .execution _⟩
  | false =>
    cases next : w.openings with
    | nil =>
      -- past the channels to come, every one returns zero
      exact .inr ⟨_, rfl, fun nonzero => absurd rfl nonzero⟩
    | cons opening later =>
      cases opening with
      | refused reason => exact .inl ⟨_, rfl, .execution _⟩
      | unsent reason => exact .inl ⟨_, rfl, .execution _⟩
      | opened written loss =>
        refine .inr ⟨_, rfl, fun nonzero => ?_⟩
        exact ⟨line, written, loss, rfl, next, reported_of_collect nonzero⟩

/-- A command is refused where there is no session that takes it, and otherwise it comes to what its
channel comes to. -/
theorem Connection.run_verdict (c : Connection) (command : Command) (w : Wire) :
    (¬ (c.phase = .connected ∧ c.session.isSome) ∧ c.run command w = (.error .notConnected, w)) ∨
      (c.phase = .connected ∧ c.session.isSome) ∧ ∀ fault,
        (c.run command w).1 = .error fault →
          command.Failure (ReportedCode w (c.run command w).2) fault := by
  obtain ⟨phase, session, host⟩ := c
  cases phase with
  | disconnected | suspended =>
    refine .inl ⟨?_, rfl⟩
    rintro ⟨⟨⟩, _⟩
  | connected =>
    cases session with
    | none =>
      refine .inl ⟨?_, rfl⟩
      rintro ⟨_, ⟨⟩⟩
    | some session =>
      refine .inr ⟨⟨rfl, rfl⟩, fun fault failed => ?_⟩
      have verdict := Wire.exec_verdict command.text w
      unfold run at failed ⊢
      simp only [Link.Phase.ensureRunnable, bind, StateT.bind] at failed ⊢
      rcases exec : Wire.exec command.text w with ⟨answer, w'⟩
      rw [exec] at verdict
      simp only [exec] at failed ⊢
      rcases verdict with ⟨inner, rfl, broken⟩ | ⟨o, rfl, own⟩
      · cases failed
        exact .broken broken
      · exact Command.failure_of_check own failed

end Ssh

/-! ## Verdicts on either transport -/

/-- **The target reports a code** between two states of the surroundings. -/
def Surroundings.ReportedCode (s s' : Surroundings) : Transport → Int32 → Prop
  | .ssh, code => Ssh.ReportedCode s.ssh s'.ssh code
  | .winRm, code => ∃ sent, s'.winRm.exchanges = s.winRm.exchanges ++ sent ∧
      WinRm.ReportedCode sent code

namespace Connection

/-- There is a session that takes commands. -/
def Ready : Connection → Prop
  | .ssh c => c.phase = .connected ∧ c.session.isSome
  | .winRm c => c.phase = .connected ∧ c.session.isSome

/-- **A command is refused or judged**: without a session that takes it nothing is sent, and with one
it fails only with what is known of how it ended. -/
theorem run_verdict (c : Connection) (command : Command) (s : Surroundings) :
    (¬ c.Ready ∧ (c.run command s).1 = .error .notConnected ∧
      (c.run command s).2.ssh = s.ssh ∧ (c.run command s).2.winRm = s.winRm) ∨
      c.Ready ∧ ∀ fault, (c.run command s).1 = .error fault →
        command.Failure (s.ReportedCode (c.run command s).2 c.transport) fault := by
  cases c with
  | ssh c =>
    rcases c.run_verdict command s.ssh with ⟨apart, refused⟩ | ⟨ready, judged⟩
    · refine .inl ⟨apart, ?_⟩
      simp only [run, Surroundings.onSsh, refused, and_self]
    · exact .inr ⟨ready, judged⟩
  | winRm c =>
    rcases c.run_verdict (s.scriptId s.usedIds) command s.winRm with
      ⟨apart, refused⟩ | ⟨ready, answer, sent, w', h, judged⟩
    · refine .inl ⟨apart, ?_⟩
      simp only [run, Surroundings.onWinRm, Surroundings.freshId, bind, StateT.bind, refused,
        and_self]
    · refine .inr ⟨ready, fun fault failed => ?_⟩
      simp only [run, Surroundings.onWinRm, Surroundings.freshId, bind, StateT.bind, h.run]
        at failed ⊢
      exact (judged fault failed).imp (fun plain => plain) fun code own => ⟨sent, h.exchanges, own⟩

end Connection

end Hostlink
