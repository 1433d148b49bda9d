import Hostlink.Proofs.Verdict

/-!
# Whom a failed command speaks of

A command that has returned the wrong code is told of by its text, the code and what it wrote to the
standard error. By SSH, and over WinRM with a plan of one line, these three are the caller's
command's. With a staged plan they need not be: the lines that set the script up have to return zero,
and one that does not is told of in the same way, as a command of its own. Then the text is that line
and not the caller's, the code may be the very one that the caller expects, and the script was never
run.

`commandFailed_speaks` is the exact condition, for either transport, and `set_up_line_blamed` is a run
in which a caller who expects the code 1 is told of a failure with the code 1.
-/

namespace Hostlink

/-- What was learned of a command is held against it: nothing but its own code makes it fail with a
code. -/
theorem Command.bind_check_eq_iff {command : Command} {result : Attempt Outcome}
    (broken : ∀ fault, result = .error fault → fault.Broken) {text stderr : String} {code : Int32} :
    result.bind command.check = .error (.commandFailed text code stderr) ↔
      text = command.text ∧ code ≠ command.expectedCode ∧
        ∃ stdout, result = .ok ⟨stdout, stderr, code⟩ := by
  cases result with
  | error fault =>
    refine iff_of_false (fun failed => ?_) ?_
    · obtain rfl := Except.error.inj failed
      cases broken _ rfl
    · rintro ⟨_, _, _, ⟨⟩⟩
  | ok o =>
    show command.check o = _ ↔ _
    rw [check]
    split
    next expected =>
      refine iff_of_false (fun failed => ?_) ?_
      · cases failed
      · rintro ⟨_, unexpected, stdout, ⟨⟩⟩
        exact unexpected expected
    next unexpected =>
      constructor
      · rintro ⟨⟩
        exact ⟨rfl, unexpected, o.stdout, rfl⟩
      · rintro ⟨rfl, _, stdout, ⟨⟩⟩
        rfl

namespace WinRm

/-! ## Lines that set a script up -/

/-- The lines of a plan that have to return zero before the command is run. -/
def Plan.setUpLines : Plan → List String
  | .single _ => []
  | .staged script => script.setUpLines

/-- The line of a plan that runs the command. -/
def Plan.commandLine : Plan → String
  | .single line => line
  | .staged script => script.runLine

theorem Plan.commandLine_not_mem (plan : Plan) : plan.commandLine ∉ plan.setUpLines := by
  cases plan with
  | single => exact List.not_mem_nil
  | staged script => exact script.runLine_not_mem

variable {endpoint : String}

/-- **How far lines come**: up to one that is the last, or up to one before it that did not return
zero. Those before that one did. By induction on the lines before the last. -/
theorem Stepwise.reaches {setUp : List String} {last : String} {cs : List (LineCourse endpoint)}
    (h : Stepwise (setUp ++ [last]) cs) :
    ∃ front c, cs = front ++ [c] ∧ (∀ d ∈ front, d.line ∈ setUp ∧ d.Succeeded) ∧
      (c.line = last ∧ outcomeAfter setUp.length cs = c.outcome ∨
        c.line ∈ setUp ∧ ¬ c.Succeeded ∧
          outcomeAfter setUp.length cs = c.step) := by
  induction setUp generalizing cs with
  | nil =>
    cases h with
    | stopped same => exact ⟨[], _, rfl, List.forall_mem_nil _, .inl ⟨same, rfl⟩⟩
    | next same _ tail =>
      cases tail
      exact ⟨[], _, rfl, List.forall_mem_nil _, .inl ⟨same, rfl⟩⟩
  | cons line setUp ih =>
    cases h with
    | @stopped _ _ c same failed =>
      refine ⟨[], c, rfl, List.forall_mem_nil _, .inr ⟨?_, failed, ?_⟩⟩
      · exact same ▸ List.mem_cons_self
      · cases came : c.step with
        | ok o => exact absurd (c.succeeded_iff.mpr ⟨o, came⟩) failed
        | error fault => simp only [List.length_cons, outcomeAfter, came]
    | @next _ _ c cs same succeeded tail =>
      obtain ⟨front, d, rfl, before, reached⟩ := ih tail
      obtain ⟨o, ok⟩ := c.succeeded_iff.mp succeeded
      refine ⟨c :: front, d, rfl, ?_, ?_⟩
      · rw [List.forall_mem_cons]
        refine ⟨⟨same ▸ List.mem_cons_self, succeeded⟩, fun e among => ?_⟩
        exact ⟨List.mem_cons_of_mem line (before e among).1, (before e among).2⟩
      · simp only [List.length_cons, outcomeAfter, ok]
        rcases reached with ran | ⟨inside, failed, came⟩
        · exact .inl ran
        · exact .inr ⟨List.mem_cons_of_mem line inside, failed, came⟩

/-! ## Whom a code speaks of -/

namespace LineCourse

/-- **What a line returned**: it was carried out to its end, with this code and this text on the
standard error. -/
def Returned (c : LineCourse endpoint) (code : Int32) (stderr : String) : Prop :=
  ∃ stdout, c.outcome = .ok ⟨stdout, stderr, code⟩

theorem Returned.not_succeeded {c : LineCourse endpoint} {code : Int32} {stderr : String}
    (h : c.Returned code stderr) (nonzero : code ≠ 0) : ¬ c.Succeeded := by
  rintro ⟨o, came, zero⟩
  obtain ⟨stdout, came'⟩ := h
  obtain rfl := Except.ok.inj (came.symm.trans came')
  exact nonzero zero

theorem bind_check_eq_iff {c : LineCourse endpoint} {command : Command} {text stderr : String}
    {code : Int32} :
    c.outcome.bind command.check = .error (.commandFailed text code stderr) ↔
      text = command.text ∧ code ≠ command.expectedCode ∧ c.Returned code stderr :=
  Command.bind_check_eq_iff fun _ => broken_of_outcome

theorem step_eq_iff {c : LineCourse endpoint} {text stderr : String} {code : Int32} :
    c.step = .error (.commandFailed text code stderr) ↔
      text = c.line ∧ code ≠ 0 ∧ c.Returned code stderr := by
  rw [step_eq_bind]
  exact bind_check_eq_iff

end LineCourse

/-- **Whom a code speaks of**, where `steps` are the lines that were carried out up to the one that
runs the command, and `sent` is all that was sent. -/
inductive Speaks (command : Command) (plan : Plan) (steps : List (LineCourse endpoint))
    (sent : List Exchange) : String → Int32 → String → Prop
  /-- Of the command, which was run and returned a code that it must not return. -/
  | ofCommand {c : LineCourse endpoint} {code : Int32} {stderr : String} (among : c ∈ steps)
      (ran : c.line = plan.commandLine) (returned : c.Returned code stderr)
      (unexpected : code ≠ command.expectedCode) :
      Speaks command plan steps sent command.text code stderr
  /-- Of a line that sets the script up, which returned another code than zero. The command was not
  run, and what its caller expects has no part in it. -/
  | ofSetUp {c : LineCourse endpoint} {code : Int32} {stderr : String} (among : c ∈ steps)
      (setsUp : c.line ∈ plan.setUpLines) (returned : c.Returned code stderr) (nonzero : code ≠ 0)
      (never : plan.commandLine ∉ commandLines sent) :
      Speaks command plan steps sent c.line code stderr

section Reached

variable {command : Command} {plan : Plan} {front : List (LineCourse endpoint)}
  {c : LineCourse endpoint} {sent : List Exchange} {text stderr : String} {code : Int32}

/-- Where the line that runs the command was reached, a code speaks of the command. -/
theorem speaks_iff_of_ran (before : ∀ d ∈ front, d.line ∈ plan.setUpLines ∧ d.Succeeded)
    (ran : c.line = plan.commandLine) (asked : plan.commandLine ∈ commandLines sent) :
    Speaks command plan (front ++ [c]) sent text code stderr ↔
      text = command.text ∧ code ≠ command.expectedCode ∧ c.Returned code stderr := by
  constructor
  · intro speaks
    cases speaks with
    | @ofCommand d _ _ among ran' returned unexpected =>
      rcases List.mem_append.mp among with among | among
      · exact absurd (ran' ▸ (before d among).1) plan.commandLine_not_mem
      · obtain rfl := List.mem_singleton.mp among
        exact ⟨rfl, unexpected, returned⟩
    | ofSetUp _ _ _ _ never => exact absurd asked never
  · rintro ⟨rfl, unexpected, returned⟩
    exact .ofCommand (List.mem_append_right front List.mem_cons_self) ran returned unexpected

/-- Where a line that sets the script up was the last one, a code speaks of that line. -/
theorem speaks_iff_of_stopped (before : ∀ d ∈ front, d.line ∈ plan.setUpLines ∧ d.Succeeded)
    (setsUp : c.line ∈ plan.setUpLines) (never : plan.commandLine ∉ commandLines sent) :
    Speaks command plan (front ++ [c]) sent text code stderr ↔
      text = c.line ∧ code ≠ 0 ∧ c.Returned code stderr := by
  constructor
  · intro speaks
    cases speaks with
    | @ofCommand d _ _ among ran =>
      rcases List.mem_append.mp among with among | among
      · exact absurd (ran ▸ (before d among).1) plan.commandLine_not_mem
      · obtain rfl := List.mem_singleton.mp among
        exact absurd (ran ▸ setsUp) plan.commandLine_not_mem
    | @ofSetUp d _ _ among _ returned nonzero =>
      -- all the lines before the last one returned zero
      rcases List.mem_append.mp among with among | among
      · exact absurd (before d among).2 (returned.not_succeeded nonzero)
      · obtain rfl := List.mem_singleton.mp among
        exact ⟨rfl, nonzero, returned⟩
  · rintro ⟨rfl, nonzero, returned⟩
    exact .ofSetUp (List.mem_append_right front List.mem_cons_self) setsUp returned nonzero never

end Reached

/-- The lines of a plan are carried out in their order as far as they come, and behind them at most
the cleanup is sent. -/
theorem Session.run_steps (s : Session) (id : String) (command : Command) (w : Wire) :
    ∃ (steps : List (LineCourse s.endpoint)) (more : List Exchange) (w' : Wire),
      Stepwise ((Plan.ofCommand id command).setUpLines ++ [(Plan.ofCommand id command).commandLine])
        steps ∧
      (Plan.ofCommand id command).commandLine ∉ commandLines more ∧
      Sends (s.run id command) w
        ((outcomeAfter (Plan.ofCommand id command).setUpLines.length steps).bind command.check)
        (steps.flatMap (·.exchanges s.shell) ++ more) w' := by
  cases plan : Plan.ofCommand id command with
  | single line =>
    obtain ⟨c, w', rfl, h⟩ := s.run_single plan w
    refine ⟨[c], [], w', .single c, List.not_mem_nil, ?_⟩
    rw [List.flatMap_singleton, List.append_nil]
    exact h
  | staged script =>
    obtain ⟨c, w', h⟩ := s.run_staged plan w
    refine ⟨c.steps, c.cleanup.toList.flatMap (·.exchanges s.shell), w', c.inOrder, ?_, ?_⟩
    · rw [commandLines_flatMap]
      intro among
      obtain ⟨cleanup, sent, same⟩ := List.mem_map.mp among
      rw [c.cleanup_line cleanup (Option.mem_toList.mp sent)] at same
      exact script.runLine_ne_cleanupLine same.symm
    · rw [← List.flatMap_append]
      exact h

/-- **Whom a command that fails in a session speaks of.** The line that was reached decides it: either
it is the one that runs the command, or it is one that sets the script up, and then the former was
not sent. -/
theorem Session.run_speaks (s : Session) (id : String) (command : Command) (w : Wire) :
    ∃ (steps : List (LineCourse s.endpoint)) (answer : Attempt Outcome) (more : List Exchange)
      (w' : Wire),
      Stepwise ((Plan.ofCommand id command).setUpLines ++ [(Plan.ofCommand id command).commandLine])
        steps ∧
      Sends (s.run id command) w answer (steps.flatMap (·.exchanges s.shell) ++ more) w' ∧
      ∀ text code stderr, answer = .error (.commandFailed text code stderr) ↔
        Speaks command (Plan.ofCommand id command) steps
          (steps.flatMap (·.exchanges s.shell) ++ more) text code stderr := by
  obtain ⟨steps, more, w', inOrder, apart, h⟩ := s.run_steps id command w
  refine ⟨steps, _, more, w', inOrder, h, fun text code stderr => ?_⟩
  generalize Plan.ofCommand id command = plan at inOrder apart ⊢
  have sent : commandLines (steps.flatMap (·.exchanges s.shell) ++ more) =
      steps.map (·.line) ++ commandLines more := by
    rw [commandLines, List.filterMap_append, ← commandLines, ← commandLines, commandLines_flatMap]
  obtain ⟨front, c, rfl, before, ⟨ran, came⟩ | ⟨setsUp, failed, came⟩⟩ := inOrder.reaches
  · have asked : plan.commandLine ∈ (front ++ [c]).map (·.line) ++ commandLines more :=
      List.mem_append_left _ (ran ▸ List.mem_map_of_mem (List.mem_append_right front (.head _)))
    rw [came, LineCourse.bind_check_eq_iff]
    exact (speaks_iff_of_ran before ran (sent ▸ asked)).symm
  · have never : plan.commandLine ∉ (front ++ [c]).map (·.line) ++ commandLines more := by
      rw [List.map_append, List.mem_append, List.mem_append, List.mem_map]
      rintro ((⟨d, among, same⟩ | same) | among)
      · exact plan.commandLine_not_mem (same ▸ (before d among).1)
      · exact plan.commandLine_not_mem (List.mem_singleton.mp same ▸ setsUp)
      · exact apart among
    have answered : c.step.bind command.check = .error (.commandFailed text code stderr) ↔
        c.step = .error (.commandFailed text code stderr) := by
      cases step : c.step with
      | ok o => exact absurd (c.succeeded_iff.mpr ⟨o, step⟩) failed
      | error fault => exact Iff.rfl
    rw [came, answered, LineCourse.step_eq_iff]
    exact (speaks_iff_of_stopped before setsUp (sent ▸ never)).symm

/-- An endpoint that cannot ensure the directory of staged scripts. -/
def Wire.withoutDirectory : Wire :=
  ⟨[.starting "C1",
    .answering 200 ("<rsp:Stream Name=\"stderr\">ZnVsbA==</rsp:Stream>" ++
      "CommandState/Done\"<rsp:ExitCode>1</rsp:ExitCode>"),
    .answering 200 ""], .silent, []⟩

/-- What a failed command is told of by, if it failed with a code. -/
def commandFailed? : Attempt Outcome → Option (String × Int32 × String)
  | .error (.commandFailed text code stderr) => some (text, code, stderr)
  | .error _ | .ok _ => none

theorem eq_of_commandFailed? {answer : Attempt Outcome} {text stderr : String} {code : Int32}
    (h : commandFailed? answer = some (text, code, stderr)) :
    answer = .error (.commandFailed text code stderr) := by
  unfold commandFailed? at h
  split at h
  next =>
    cases h
    rfl
  all_goals cases h

/-- **A failure that does not speak of the command**: its caller expects the code 1, and is told that a
line which is not the command has returned the code 1. The script was never run. -/
theorem set_up_line_blamed :
    let command : Command := { forced "hostname" with expectedCode := 1 }
    let run := Connection.run ⟨.connected, some .sample, "win"⟩ "1" command .withoutDirectory
    run.1 = .error (.commandFailed StagedScript.ensureDirLine 1 "full") ∧
      StagedScript.ensureDirLine ≠ command.text ∧ command.expectedCode = 1 ∧
      (StagedScript.ofScript "1" "hostname").runLine ∉ commandLines run.2.exchanges := by
  intro command run
  have told : commandFailed? run.1 = some (StagedScript.ensureDirLine, 1, "full") ∧
      StagedScript.ensureDirLine ≠ command.text ∧ command.expectedCode = 1 ∧
      (StagedScript.ofScript "1" "hostname").runLine ∉ commandLines run.2.exchanges := by
    decide +kernel
  exact ⟨eq_of_commandFailed? told.1, told.2⟩

end WinRm

/-! ## Either transport -/

namespace Ssh

theorem Wire.broken_of_exec {line : String} {w : Wire} {fault : LinkFault}
    (h : (Wire.exec line w).1 = .error fault) : fault.Broken := by
  rcases Wire.exec_verdict line w with ⟨fault', failed, broken⟩ | ⟨o, ok, _⟩
  · obtain rfl := Except.error.inj (failed.symm.trans h)
    exact broken
  · cases ok.symm.trans h

/-- On an open session a command comes to what its channel comes to, held against the command. -/
theorem Connection.run_of_session (session : Session) (host : String) (command : Command) (w : Wire) :
    (Connection.run ⟨.connected, some session, host⟩ command w).1 =
      (Wire.exec command.text w).1.bind command.check := by
  show (StateT.bind (Wire.exec command.text) _ w).1 = _
  rcases exec : Wire.exec command.text w with ⟨fault | o, w'⟩
  · simp only [StateT.bind, exec]
    rfl
  · simp only [StateT.bind, exec]
    rfl

/-- **By SSH a code speaks of the command**: the command was run, and returned a code that it must not
return. -/
theorem Connection.speaks_iff (c : Connection) (command : Command) (w : Wire) (text : String)
    (code : Int32) (stderr : String) :
    (c.run command w).1 = .error (.commandFailed text code stderr) ↔
      (c.phase = .connected ∧ c.session.isSome) ∧ text = command.text ∧
        code ≠ command.expectedCode ∧
        ∃ stdout, (Wire.exec command.text w).1 = .ok ⟨stdout, stderr, code⟩ := by
  rcases c.run_verdict command w with ⟨apart, refused⟩ | ⟨ready, _⟩
  · refine iff_of_false (fun failed => ?_) fun h => apart h.1
    rw [refused] at failed
    cases failed
  · rw [and_iff_right ready]
    obtain ⟨phase, session, host⟩ := c
    obtain ⟨rfl, present⟩ := ready
    obtain ⟨session, rfl⟩ := Option.isSome_iff_exists.mp present
    rw [Connection.run_of_session]
    exact Command.bind_check_eq_iff fun fault => Wire.broken_of_exec

end Ssh

/-- **Whom a failed command speaks of.** By SSH, a command fails with a code exactly if it was run and
returned that code, which its caller did not expect; the text is the caller's, and what was written
to the standard error is the command's. Over WinRM a command is refused without a session, and with
one the lines of its plan are carried out in their order as far as they come. It fails with a code
exactly if the line that runs the command returned one that the caller did not expect, and then it is
told as by SSH, or if a line that sets its script up returned another code than zero. Then the text,
the code and the standard error are that line's, and the command was not run. -/
theorem commandFailed_speaks (command : Command) (s : Surroundings) :
    (∀ (c : Ssh.Connection) (text : String) (code : Int32) (stderr : String),
      ((Connection.ssh c).run command s).1 = .error (.commandFailed text code stderr) ↔
        (Connection.ssh c).Ready ∧ text = command.text ∧ code ≠ command.expectedCode ∧
          ∃ stdout, (Ssh.Wire.exec command.text s.ssh).1 = .ok ⟨stdout, stderr, code⟩) ∧
    ∀ c : WinRm.Connection,
      let plan := WinRm.Plan.ofCommand (s.scriptId s.usedIds) command
      let run := (Connection.winRm c).run command s
      (¬ (Connection.winRm c).Ready ∧ run.1 = .error .notConnected) ∨
        ∃ (session : WinRm.Session) (steps : List (WinRm.LineCourse session.endpoint))
          (sent : List WinRm.Exchange),
          c.phase = .connected ∧ c.session = some session ∧
          WinRm.Stepwise (plan.setUpLines ++ [plan.commandLine]) steps ∧
          steps.flatMap (·.exchanges session.shell) <+: sent ∧
          run.2.winRm.exchanges = s.winRm.exchanges ++ sent ∧
          ∀ text code stderr, run.1 = .error (.commandFailed text code stderr) ↔
            WinRm.Speaks command plan steps sent text code stderr := by
  refine ⟨fun c => c.speaks_iff command s.ssh, fun c => ?_⟩
  intro plan run
  rcases (Connection.winRm c).run_verdict command s with ⟨apart, refused, _⟩ | ⟨ready, _⟩
  · exact .inl ⟨apart, refused⟩
  · obtain ⟨phase, session, host⟩ := c
    obtain ⟨rfl, present⟩ := ready
    obtain ⟨session, rfl⟩ := Option.isSome_iff_exists.mp present
    obtain ⟨steps, answer, more, w', inOrder, h, speaks⟩ :=
      session.run_speaks (s.scriptId s.usedIds) command s.winRm
    have ran : run = (answer, { s with usedIds := s.usedIds + 1, winRm := w' }) := by
      have same : WinRm.Connection.run ⟨.connected, some session, host⟩ (s.scriptId s.usedIds) command
          s.winRm = (answer, w') := h.run
      simp only [run, Connection.run, Surroundings.onWinRm, Surroundings.freshId, bind, StateT.bind,
        same]
    refine .inr ⟨session, steps, _, rfl, rfl, inOrder, List.prefix_append _ more, ?_, ?_⟩
    · rw [ran]
      exact h.exchanges
    · rw [ran]
      exact speaks

end Hostlink
