import Hostlink.Proofs.WinRm.Course
import Hostlink.Proofs.WinRm.Effect

/-!
# The course of a staged script

A staged script goes over the wire as lines: the directory, the file, one line for each piece, and
the line that runs the file. All but the last must return zero, and the first that does not stops
the rest. A line that deletes the file follows, exactly if the file was created with return code
zero; nothing that is answered depends on it.

`StagedCourse` is what can happen, and `Session.executeStaged_course` says that nothing else does.

The deletion is tied to the return code of the line that creates the file, not to the target having
taken that line. Between the two lies everything that can go wrong with a command already started:
`cleanupLine_sent_iff` gives the exact condition, and `created_without_cleanup` is a run in which
the file may exist and no line deletes it.
-/

namespace Hostlink.WinRm

namespace StagedScript

/-- The lines that have to return zero before the file is run. -/
def setUpLines (s : StagedScript) : List String := ensureDirLine :: s.createLine :: s.appendLines

/-- The lines of a staged script up to the one that runs the file. -/
def lines (s : StagedScript) : List String := s.setUpLines ++ [s.runLine]

end StagedScript

/-- **The course of a staged script** on an endpoint. -/
structure StagedCourse (endpoint : String) (script : StagedScript) where
  /-- The courses of the lines up to the one that runs the file, as far as they were sent. -/
  steps : List (LineCourse endpoint)
  /-- The course of the line that deletes the file, where it was sent. -/
  cleanup : Option (LineCourse endpoint)
  /-- Each line is sent only after all before it returned zero. -/
  inOrder : Stepwise script.lines steps
  /-- The line behind the others deletes the file. -/
  cleanup_line : ∀ c ∈ cleanup, c.line = script.cleanupLine
  /-- That line is sent exactly if the line that creates the file returned zero. -/
  cleanup_iff : cleanup.isSome ↔ ∃ create, steps[1]? = some create ∧ create.Succeeded

namespace StagedCourse

variable {endpoint : String} {script : StagedScript}

def courses (c : StagedCourse endpoint script) : List (LineCourse endpoint) :=
  c.steps ++ c.cleanup.toList

def exchanges (c : StagedCourse endpoint script) (shell : String) : List Exchange :=
  c.courses.flatMap (·.exchanges shell)

/-- **What a staged script comes to**: the fault of the first line that did not return zero before
the file was run, or else the outcome of running it. The cleanup has no part in it. -/
def outcome (c : StagedCourse endpoint script) : Attempt Outcome :=
  outcomeAfter script.setUpLines.length c.steps

/-- The lines that a staged script asks to start are the first of its lines and, behind them, the
cleanup. -/
theorem commandLines_exchanges (c : StagedCourse endpoint script) (shell : String) :
    commandLines (c.exchanges shell) =
      c.steps.map (·.line) ++ c.cleanup.toList.map fun _ => script.cleanupLine := by
  rw [exchanges, commandLines_flatMap, courses, List.map_append]
  congr 1
  exact List.map_congr_left fun d hd => c.cleanup_line d (Option.mem_toList.mp hd)

end StagedCourse

/-- Once the file was created, its pieces are appended and it is run, as far as that goes, and the
cleanup follows in any case. What it comes to is decided before the cleanup. -/
theorem Session.fillAndRun_courses (s : Session) (script : StagedScript) (w : Wire) :
    ∃ (rest : List (LineCourse s.endpoint)) (cleanup : LineCourse s.endpoint) (w' : Wire),
      Stepwise (script.appendLines ++ [script.runLine]) rest ∧
      cleanup.line = script.cleanupLine ∧
      Sends (s.fillAndRun script >>= fun outcome => s.executeStep script.cleanupLine >>= fun _ =>
          Pure.pure outcome)
        w (outcomeAfter script.appendLines.length rest)
        (rest.flatMap (·.exchanges s.shell) ++ cleanup.exchanges s.shell) w' := by
  obtain ⟨rest, w₁, hrest, sentRest⟩ := s.executeSteps_courses script.runLine script.appendLines w
  obtain ⟨cleanup, w₂, hcleanup, sentCleanup⟩ := s.executeStep_course script.cleanupLine w₁
  exact ⟨rest, cleanup, w₂, hrest, hcleanup, sentRest.bind (sentCleanup.bind_pure rfl)⟩

/-- **A staged script takes a course of its own**, and answers what the course came to. The cases
are the two lines before the file is filled, and what follows once the file is there. -/
theorem Session.executeStaged_course (s : Session) (script : StagedScript) (w : Wire) :
    ∃ (c : StagedCourse s.endpoint script) (w' : Wire),
      Sends (s.executeStaged script) w c.outcome (c.exchanges s.shell) w' := by
  obtain ⟨dir, w₁, hdir, sentDir⟩ := s.executeStep_course StagedScript.ensureDirLine w
  cases dirStep : dir.step with
  | error fault =>
    -- nothing else is sent, the cleanup included: there is no second line
    rw [dirStep] at sentDir
    refine ⟨⟨[dir], none, .stopped hdir (LineCourse.not_succeeded_of_fault dirStep), ?_, ?_⟩, w₁, ?_⟩
    · intro c hc; cases hc
    · refine iff_of_false Bool.false_ne_true ?_
      rintro ⟨_, h, _⟩
      cases h
    · simp only [StagedCourse.outcome, StagedScript.setUpLines, List.length_cons, outcomeAfter,
        dirStep, StagedCourse.exchanges, StagedCourse.courses, Option.toList_none, List.append_nil,
        List.flatMap_singleton]
      exact sentDir.bind_pure rfl
  | ok _ =>
    rw [dirStep] at sentDir
    have dirOk : dir.Succeeded := dir.succeeded_iff.mpr ⟨_, dirStep⟩
    obtain ⟨create, w₂, hcreate, sentCreate⟩ := s.executeStep_course script.createLine w₁
    cases createStep : create.step with
    | error fault =>
      -- the line may have been started, and still no cleanup follows
      rw [createStep] at sentCreate
      have failed := LineCourse.not_succeeded_of_fault createStep
      refine ⟨⟨[dir, create], none, .next hdir dirOk (.stopped hcreate failed), ?_, ?_⟩, w₂, ?_⟩
      · intro c hc; cases hc
      · refine iff_of_false Bool.false_ne_true ?_
        rintro ⟨_, h, succeeded⟩
        cases h
        exact failed succeeded
      · simp only [StagedCourse.outcome, StagedScript.setUpLines, List.length_cons, outcomeAfter,
          dirStep, createStep, StagedCourse.exchanges, StagedCourse.courses, Option.toList_none,
          List.append_nil, List.flatMap_cons, List.flatMap_nil]
        exact sentDir.bind (sentCreate.bind_pure rfl)
    | ok _ =>
      rw [createStep] at sentCreate
      have createOk : create.Succeeded := create.succeeded_iff.mpr ⟨_, createStep⟩
      obtain ⟨rest, cleanup, w₃, hrest, hcleanup, sentRest⟩ := s.fillAndRun_courses script w₂
      refine ⟨⟨dir :: create :: rest, some cleanup,
        .next hdir dirOk (.next hcreate createOk hrest), ?_, ?_⟩, w₃, ?_⟩
      · intro c hc
        rw [← Option.some.inj hc]
        exact hcleanup
      · exact iff_of_true rfl ⟨create, rfl, createOk⟩
      · simp only [StagedCourse.outcome, StagedScript.setUpLines, List.length_cons, outcomeAfter,
          dirStep, createStep, StagedCourse.exchanges, StagedCourse.courses, Option.toList_some,
          List.flatMap_append, List.flatMap_cons, List.flatMap_nil, List.append_nil,
          List.append_assoc]
        exact sentDir.bind (sentCreate.bind sentRest)

/-- A command in one line, run in a session, takes a course of that line; what the course comes to is
held against the command. -/
theorem Session.run_single {id : String} {command : Command} {line : String}
    (single : Plan.ofCommand id command = .single line) (s : Session) (w : Wire) :
    ∃ (c : LineCourse s.endpoint) (w' : Wire), c.line = line ∧
      Sends (s.run id command) w (c.outcome.bind command.check) (c.exchanges s.shell) w' := by
  obtain ⟨c, w', rfl, h⟩ := s.execute_course line w
  refine ⟨c, w', rfl, ?_⟩
  unfold Session.run
  rw [single]
  refine h.bind_pure ?_
  cases c.outcome <;> rfl

/-- A command with a staged plan, run in a session, takes a course of its script; what the course
comes to is held against the command. -/
theorem Session.run_staged {id : String} {command : Command} {script : StagedScript}
    (staged : Plan.ofCommand id command = .staged script) (s : Session) (w : Wire) :
    ∃ (c : StagedCourse s.endpoint script) (w' : Wire),
      Sends (s.run id command) w (c.outcome.bind command.check) (c.exchanges s.shell) w' := by
  obtain ⟨c, w', h⟩ := s.executeStaged_course script w
  refine ⟨c, w', ?_⟩
  unfold Session.run
  rw [staged]
  refine h.bind_pure ?_
  cases c.outcome <;> rfl

/-! ## A staged command on a connection -/

/-- A command is refused without a word to the endpoint, or it is run in a session. -/
theorem Connection.run_refused_or_session (c : Connection) (id : String) (command : Command)
    (w : Wire) :
    (∃ fault, c.run id command w = (.error fault, w)) ∨
      ∃ session : Session, c.run id command w = session.run id command w := by
  unfold run
  cases c.phase.ensureRunnable with
  | error fault => exact .inl ⟨fault, rfl⟩
  | ok _ =>
    cases c.session with
    | none => exact .inl ⟨.notConnected, rfl⟩
    | some session => exact .inr ⟨session, rfl⟩

/-- **A staged command**: on a connection with a session, whatever the endpoint does, the lines
asked for are the script's own in their order, each only after all before it returned zero, and
behind them the cleanup exactly if the line that creates the file returned zero. The answer is the
fault of the first line that failed before the file was run, or the outcome of running it, held
against the command; the course of the cleanup is no part of it. -/
theorem staged_command_takes_course {id : String} {command : Command} {script : StagedScript}
    (staged : Plan.ofCommand id command = .staged script) (s : Session) (host : String) (w : Wire) :
    ∃ (c : StagedCourse s.endpoint script) (w' : Wire),
      Connection.run ⟨.connected, some s, host⟩ id command w = (c.outcome.bind command.check, w') ∧
      w'.exchanges = w.exchanges ++ c.exchanges s.shell ∧
      commandLines (c.exchanges s.shell) =
        c.steps.map (·.line) ++ c.cleanup.toList.map fun _ => script.cleanupLine := by
  obtain ⟨c, w', h⟩ := s.run_staged staged w
  exact ⟨c, w', h.run, h.exchanges, c.commandLines_exchanges s.shell⟩

/-- The turn of an endpoint that takes the login and then answers. -/
def Turn.answering (status : Nat) (body : String) : Turn :=
  ⟨"", Bytes.zeros 8, 0, .replied challengeReply, .replied ⟨status, [], body⟩⟩

def Turn.starting (id : String) : Turn :=
  answering 200 ("<rsp:CommandId>" ++ id ++ "</rsp:CommandId>")

/-- The turns of an endpoint that starts a line under an id, finds it finished with return code zero
at the first poll, and takes its termination. -/
def Turn.carryingOut (id : String) : List Turn :=
  [starting id, answering 200 "CommandState/Done\"<rsp:ExitCode>0</rsp:ExitCode>", answering 200 ""]

def Session.sample : Session := ⟨⟨"", "", "", ""⟩, "http://win:5985/wsman", "S1"⟩

def forced (text : String) : Command := { text, hints := [("force_split", .bool true)] }

/-- An endpoint that carries out every line of a short staged script, the cleanup included. -/
def Wire.obliging : Wire :=
  ⟨["C1", "C2", "C3", "C4", "C5"].flatMap Turn.carryingOut, .silent, []⟩

theorem staged_hostname_takes_course :
    ∃ (c : StagedCourse Session.sample.endpoint (.ofScript "1" "hostname")) (w' : Wire),
      Connection.run ⟨.connected, some .sample, "win"⟩ "1" (forced "hostname") .obliging =
        (c.outcome.bind (forced "hostname").check, w') ∧
      w'.exchanges = Wire.obliging.exchanges ++ c.exchanges "S1" ∧
      commandLines (c.exchanges "S1") = c.steps.map (·.line) ++
        c.cleanup.toList.map fun _ => (StagedScript.ofScript "1" "hostname").cleanupLine :=
  staged_command_takes_course rfl .sample "win" .obliging

/-! ## When the file is deleted -/

/-- The lines that set a script up are written in forms that open differently from those of the lines
behind them. -/
theorem StagedScript.form_of_setUpLine {script : StagedScript} {line : String}
    (h : line ∈ script.setUpLines) :
    ∃ form : Form, form.Apart .run ∧ form.Apart .remove ∧
      ∃ filling, line.toList = form.fill filling := by
  have apart := Effect.forms_apart
  simp only [Effect.forms, List.pairwise_cons, List.forall_mem_cons] at apart
  obtain ⟨⟨_, _, dirRun, dirRemove, _⟩, ⟨_, createRun, createRemove, _⟩,
    ⟨appendRun, appendRemove, _⟩, _⟩ := apart
  simp only [setUpLines, appendLines, List.mem_cons, List.mem_map] at h
  rcases h with rfl | rfl | ⟨chunk, _, rfl⟩
  · exact ⟨.ensureDirectory, dirRun, dirRemove, _, Effect.ensureDirLine_eq_fill⟩
  · exact ⟨.write, createRun, createRemove, _, Effect.createLine_eq_fill⟩
  · exact ⟨.append, appendRun, appendRemove, _, Effect.appendLine_eq_fill chunk⟩

/-- The line that runs the file is none of those that set it up. -/
theorem StagedScript.runLine_not_mem (script : StagedScript) :
    script.runLine ∉ script.setUpLines := by
  intro among
  obtain ⟨form, apart, _, filling, same⟩ := form_of_setUpLine among
  rw [Effect.runLine_eq_fill] at same
  exact Form.fill_ne_of_apart apart _ _ same.symm

/-- The cleanup is none of the lines before it. -/
theorem StagedScript.cleanupLine_not_mem (script : StagedScript) :
    script.cleanupLine ∉ script.lines := by
  have apart := Effect.forms_apart
  simp only [Effect.forms, List.pairwise_cons, List.forall_mem_cons] at apart
  obtain ⟨_, _, _, ⟨runRemove, _⟩, _⟩ := apart
  intro among
  rcases List.mem_append.mp among with setsUp | runs
  · obtain ⟨form, _, apart, filling, same⟩ := form_of_setUpLine setsUp
    rw [Effect.cleanupLine_eq_fill] at same
    exact Form.fill_ne_of_apart apart _ _ same.symm
  · have same := congrArg String.toList (List.mem_singleton.mp runs)
    rw [Effect.cleanupLine_eq_fill, Effect.runLine_eq_fill] at same
    exact Form.fill_ne_of_apart runRemove _ _ same.symm

theorem StagedScript.runLine_ne_cleanupLine (script : StagedScript) :
    script.runLine ≠ script.cleanupLine := by
  intro same
  refine script.cleanupLine_not_mem ?_
  rw [← same]
  exact List.mem_append_right _ List.mem_cons_self

theorem StagedCourse.create_line {endpoint : String} {script : StagedScript}
    (c : StagedCourse endpoint script) {create : LineCourse endpoint}
    (h : c.steps[1]? = some create) : create.line = script.createLine := by
  obtain ⟨rest, hrest⟩ := c.inOrder.firstLines
  have second := congrArg (·[1]?) hrest
  have sent : (c.steps.map (·.line))[1]? = some create.line := by rw [List.getElem?_map, h]; rfl
  have bound := (List.getElem?_eq_some_iff.mp sent).1
  rw [List.getElem?_append_left bound, sent] at second
  exact Option.some.inj second

/-- **The exact condition of the cleanup**: it is asked for exactly if the line that creates the
file was carried out to its end and returned zero. That the target took that line is not enough. -/
theorem cleanupLine_sent_iff {id : String} {command : Command} {script : StagedScript}
    (staged : Plan.ofCommand id command = .staged script) (s : Session) (host : String) (w : Wire) :
    ∃ (c : StagedCourse s.endpoint script) (w' : Wire),
      Connection.run ⟨.connected, some s, host⟩ id command w = (c.outcome.bind command.check, w') ∧
      w'.exchanges = w.exchanges ++ c.exchanges s.shell ∧
      (script.cleanupLine ∈ commandLines (c.exchanges s.shell) ↔
        ∃ create, c.steps[1]? = some create ∧ create.line = script.createLine ∧
          create.Succeeded) := by
  obtain ⟨c, w', h⟩ := s.run_staged staged w
  refine ⟨c, w', h.run, h.exchanges, ?_⟩
  rw [c.commandLines_exchanges]
  constructor
  · intro sent
    rcases List.mem_append.mp sent with sent | sent
    · exact absurd (c.inOrder.firstLines.subset sent) script.cleanupLine_not_mem
    · obtain ⟨cleanup, hcleanup, _⟩ := List.mem_map.mp sent
      have some := Option.isSome_of_mem (Option.mem_toList.mp hcleanup)
      obtain ⟨create, hcreate, succeeded⟩ := c.cleanup_iff.mp some
      exact ⟨create, hcreate, c.create_line hcreate, succeeded⟩
  · rintro ⟨create, hcreate, _, succeeded⟩
    have some := c.cleanup_iff.mpr ⟨create, hcreate, succeeded⟩
    obtain ⟨cleanup, hcleanup⟩ := Option.isSome_iff_exists.mp some
    refine List.mem_append_right _ (List.mem_map.mpr ⟨cleanup, ?_, rfl⟩)
    exact Option.mem_toList.mpr hcleanup

theorem cleanupLine_sent_iff_for_hostname :
    ∃ (c : StagedCourse Session.sample.endpoint (.ofScript "1" "hostname")) (w' : Wire),
      Connection.run ⟨.connected, some .sample, "win"⟩ "1" (forced "hostname") .obliging =
        (c.outcome.bind (forced "hostname").check, w') ∧
      w'.exchanges = Wire.obliging.exchanges ++ c.exchanges "S1" ∧
      ((StagedScript.ofScript "1" "hostname").cleanupLine ∈ commandLines (c.exchanges "S1") ↔
        ∃ create, c.steps[1]? = some create ∧
          create.line = (StagedScript.ofScript "1" "hostname").createLine ∧ create.Succeeded) :=
  cleanupLine_sent_iff rfl .sample "win" .obliging

/-- An endpoint that starts the line that creates the file, and then fails the poll for it. -/
def Wire.losingPoll : Wire :=
  ⟨Turn.carryingOut "C1" ++ [.starting "C2", .answering 500 "", .answering 200 ""], .silent, []⟩

/-- **A file without a deletion**: the endpoint starts the line that creates the file, and the run
ends without asking for the line that deletes it. -/
theorem created_without_cleanup :
    let script := StagedScript.ofScript "1" "hostname"
    let log := (Connection.run ⟨.connected, some .sample, "win"⟩ "1" (forced "hostname")
      .losingPoll).2.exchanges
    Plan.ofCommand "1" (forced "hostname") = .staged script ∧
      (∃ e ∈ log, e.request = .command "S1" script.createLine ∧
        (e.turn.startedCommand e.endpoint).toOption = some "C2") ∧
      script.cleanupLine ∉ commandLines log := by
  decide +kernel

end Hostlink.WinRm
