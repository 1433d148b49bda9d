import Hostlink.Proofs.Bytes.Utf16
import Hostlink.Proofs.WinRm.Capture
import Hostlink.Proofs.WinRm.Isolation
import Hostlink.Proofs.WinRm.ScriptText

/-!
# Single lines and staged scripts agree

A text reaches the interpreter inside one line, or as a file that many lines put together. A
`Machine` is told by what the texts that it runs come to, whichever way they have reached it, and
`Machine.Does` says what it makes of a line. How it speaks to a client is `Machine.Step`: it starts a
line, hands out what the line has come to in pieces of its own choice, with as many empty polls in
between as it likes, and says with the last piece that the line has ended.

`single_and_staged_agree` compares two runs against such a machine, one of a short command and one
of the same command where staging is forced. Nothing ties the two runs together but the machine's
way to run texts: the sessions, the file names, the disks and the cuts of the output are those of
each run. What carries the proof is that such a machine never stops a staged script, so its last
line is reached with the whole text in the file, `outcomeAfter_of_serves`.
-/

namespace Hostlink.WinRm

/-! ## Machines that run texts -/

/-- What a text comes to that is run: the octets of either stream, and the code. -/
structure Performance where
  stdout : Bytes
  stderr : Bytes
  code : Int32

/-- The outcome of a performance, whose octets are read as text. -/
def Performance.outcome (p : Performance) : Outcome :=
  ⟨Utf8.decodeLossy p.stdout, Utf8.decodeLossy p.stderr, p.code⟩

/-- **A machine that runs texts.** -/
structure Machine where
  /-- What a text comes to. -/
  perform : String → Performance

/-- **What a machine makes of a line**, which comes to `p` and turns the disk `d` into `d'`. A line
that asks for anything else may come to anything. -/
structure Machine.Does (m : Machine) (d : Disk) (line : String) (p : Performance) (d' : Disk) :
    Prop where
  /-- An encoded text is run. -/
  encoded : ∀ payload text, line = "powershell -encodedcommand " ++ payload →
    decodeScript payload = .ok text → p = m.perform text
  /-- A file is run by the text in it, which follows the byte order mark. -/
  file : ∀ path content text, Effect.ofLine line = some (.run path) →
    d.files path = some (0xFF :: 0xFE :: content) → Utf16.decode content = .ok text →
    p = m.perform text
  /-- Any other line of staging has its effect on the disk, and returns zero. -/
  staging : ∀ effect, Effect.ofLine line = some effect → (∀ path, effect ≠ .run path) →
    p.code = 0 ∧ d' = d.apply effect

namespace Machine

/-! ## Machines that serve a shell -/

/-- A line that has been started, and what is left to be handed out of what it came to. -/
structure Job where
  id : String
  left : Performance

/-- A machine between two exchanges. -/
structure Standing where
  disk : Disk
  /-- The line that has not ended yet, if there is one. -/
  job : Option Job

/-- **One exchange with a machine that serves a shell.** -/
inductive Step (m : Machine) (endpoint shell : String) : Standing → Exchange → Standing → Prop
  /-- A line is started. -/
  | start {disk disk' : Disk} {job : Option Job} {line id : String} {turn : Turn} {p : Performance}
      (started : turn.startedCommand endpoint = .ok id) (does : m.Does disk line p disk') :
      Step m endpoint shell ⟨disk, job⟩ ⟨endpoint, .command shell line, turn⟩
        ⟨disk', some ⟨id, p⟩⟩
  /-- A poll finds nothing yet. -/
  | idle {disk : Disk} {id : String} {turn : Turn} {left : Performance}
      (idle : turn.isIdle endpoint = true) :
      Step m endpoint shell ⟨disk, some ⟨id, left⟩⟩ ⟨endpoint, .receive shell id, turn⟩
        ⟨disk, some ⟨id, left⟩⟩
  /-- A poll is given some of what is left. -/
  | output {disk : Disk} {id : String} {turn : Turn} {stdout stderr : List Bytes}
      {stated : Option Int32} {out err : Bytes} {code : Int32}
      (delivers : turn.Delivers endpoint stdout stderr stated false) :
      Step m endpoint shell ⟨disk, some ⟨id, stdout.flatten ++ out, stderr.flatten ++ err, code⟩⟩
        ⟨endpoint, .receive shell id, turn⟩ ⟨disk, some ⟨id, out, err, code⟩⟩
  /-- A poll is given all that is left, and the code, unless that is zero and left out. -/
  | finish {disk : Disk} {id : String} {turn : Turn} {stdout stderr : List Bytes}
      {stated : Option Int32} (delivers : turn.Delivers endpoint stdout stderr stated true) :
      Step m endpoint shell
        ⟨disk, some ⟨id, stdout.flatten, stderr.flatten, stated.getD 0⟩⟩
        ⟨endpoint, .receive shell id, turn⟩ ⟨disk, none⟩
  /-- A poll for a line that is not there is answered in any way. -/
  | late {now : Standing} {id : String} {turn : Turn}
      (other : ∀ job, now.job = some job → job.id ≠ id) :
      Step m endpoint shell now ⟨endpoint, .receive shell id, turn⟩ now
  /-- A termination is answered in any way, and takes the line away. -/
  | stop {disk : Disk} {job : Option Job} {id : String} {turn : Turn} :
      Step m endpoint shell ⟨disk, job⟩ ⟨endpoint, .signal shell id, turn⟩
        ⟨disk, job.filter (·.id ≠ id)⟩

/-- **A machine serves a shell**: in exchanges one after another. -/
inductive Serves (m : Machine) (endpoint shell : String) : Standing → List Exchange → Prop
  | nothing {now : Standing} : Serves m endpoint shell now []
  | step {now next : Standing} {e : Exchange} {log : List Exchange}
      (first : m.Step endpoint shell now e next) (rest : Serves m endpoint shell next log) :
      Serves m endpoint shell now (e :: log)

variable {m : Machine} {endpoint shell : String}

/-- **A poll of a line that has been started** does not fail. It hands out some of what is left, and
the line goes on; or it hands out all of it with the code, and the line has ended. -/
theorem Step.poll {disk : Disk} {job : Job} {turn : Turn} {next : Standing}
    (step : m.Step endpoint shell ⟨disk, some job⟩ ⟨endpoint, .receive shell job.id, turn⟩ next) :
    ∃ chunk, turn.poll endpoint = .ok chunk ∧
      (chunk.done = false ∧ (∃ left, next = ⟨disk, some ⟨job.id, left⟩⟩ ∧
          job.left = ⟨chunk.stdout ++ left.stdout, chunk.stderr ++ left.stderr, left.code⟩) ∨
        chunk.done = true ∧ next = ⟨disk, none⟩ ∧
          job.left = ⟨chunk.stdout, chunk.stderr, chunk.exitCode.getD 0⟩) := by
  cases step with
  | idle idle => exact ⟨.pending, Turn.poll_of_isIdle idle, .inl ⟨rfl, _, rfl, rfl⟩⟩
  | output delivers => exact ⟨_, Turn.poll_of_delivers delivers, .inl ⟨rfl, _, rfl, rfl⟩⟩
  | finish delivers => exact ⟨_, Turn.poll_of_delivers delivers, .inr ⟨rfl, rfl, rfl⟩⟩
  | late other => exact absurd rfl (other job rfl)

/-- **Polls of a line that has been started** hand out all that is left of it. By induction on the
polls; none of them fails, and the last one is the one that ends the line. -/
theorem Serves.polls {collected : Collected} {polls : List Turn} {outcome : Attempt Outcome}
    (polling : Polling endpoint collected polls outcome) {disk : Disk} {job : Job}
    {more : List Exchange} (served : m.Serves endpoint shell ⟨disk, some job⟩
      (polls.map (⟨endpoint, .receive shell job.id, ·⟩) ++ more)) :
    outcome = .ok ⟨Utf8.decodeLossy (collected.stdout.reverse.flatten ++ job.left.stdout),
        Utf8.decodeLossy (collected.stderr.reverse.flatten ++ job.left.stderr), job.left.code⟩ ∧
      m.Serves endpoint shell ⟨disk, none⟩ more := by
  induction polling generalizing job with
  | failed failed =>
    cases served with
    | step first rest =>
      obtain ⟨chunk, answered, _⟩ := first.poll
      cases failed.symm.trans answered
  | finished polled done =>
    cases served with
    | step first rest =>
      obtain ⟨chunk, answered, ⟨unfinished, _⟩ | ⟨_, rfl, all⟩⟩ := first.poll
      · cases polled.symm.trans answered
        cases done.symm.trans unfinished
      · cases polled.symm.trans answered
        refine ⟨?_, rest⟩
        simp only [Collected.outcome, Collected.push_stdout, Collected.push_stderr, all]
  | unfinished polled unfinished _ ih =>
    cases served with
    | step first rest =>
      obtain ⟨chunk, answered, ⟨_, left, rfl, some⟩ | ⟨done, _⟩⟩ := first.poll
      · cases polled.symm.trans answered
        obtain ⟨same, rest⟩ := @ih ⟨job.id, left⟩ rest
        refine ⟨?_, rest⟩
        simpa only [Collected.push_stdout, Collected.push_stderr, List.append_assoc, some] using same
      · cases polled.symm.trans answered
        cases done.symm.trans unfinished

/-- **The course of a line** on a machine: the line is done, and comes to what the machine makes of
it. -/
theorem Serves.course {c : LineCourse endpoint} {now : Standing} {more : List Exchange}
    (served : m.Serves endpoint shell now (c.exchanges shell ++ more)) :
    ∃ p disk', m.Does now.disk c.line p disk' ∧ c.outcome = .ok p.outcome ∧
      m.Serves endpoint shell ⟨disk', none⟩ more := by
  cases c with
  | refused line start fault answered =>
    cases served with
    | step first rest =>
      cases first with
      | start started does => cases answered.symm.trans started
  | started line start id polls outcome stop answered polled =>
    cases served with
    | step first rest =>
      cases first with
      | @start _ disk' _ _ _ _ p started does =>
        cases answered.symm.trans started
        rw [List.append_eq, List.append_assoc] at rest
        obtain ⟨same, rest⟩ := rest.polls polled
        cases rest with
        | step first rest =>
          cases first with
          | stop => exact ⟨p, disk', does, same, rest⟩

/-! ## Staged scripts on a machine -/

/-- **Lines of staging come through**: each of them returns zero, so the line behind them is reached,
on the disk that they leave. By induction on the lines. -/
theorem outcomeAfter_of_serves {lines : List String} {last : String}
    (understood : ∀ line ∈ lines,
      ∃ effect, Effect.ofLine line = some effect ∧ ∀ path, effect ≠ .run path)
    {courses : List (LineCourse endpoint)} (steps : Stepwise (lines ++ [last]) courses)
    {now : Standing} {more : List Exchange}
    (served : m.Serves endpoint shell now (courses.flatMap (·.exchanges shell) ++ more)) :
    ∃ p disk', m.Does (now.disk.carryOutAll lines) last p disk' ∧
      outcomeAfter lines.length courses = .ok p.outcome := by
  induction lines generalizing courses now with
  | nil =>
    cases steps with
    | stopped same | next same _ tail =>
      subst same
      rw [List.flatMap_cons, List.append_assoc] at served
      obtain ⟨p, disk', does, outcome, _⟩ := served.course
      exact ⟨p, disk', does, outcome⟩
  | cons line lines ih =>
    rw [List.forall_mem_cons] at understood
    obtain ⟨⟨effect, known, runsNot⟩, others⟩ := understood
    have returned {c : LineCourse endpoint} {disk' : Disk} {p : Performance} (same : c.line = line)
        (does : m.Does now.disk c.line p disk') (outcome : c.outcome = .ok p.outcome) :
        c.Succeeded ∧ disk' = now.disk.carryOut line := by
      obtain ⟨zero, after⟩ := does.staging effect (same ▸ known) runsNot
      exact ⟨⟨_, outcome, zero⟩, after.trans (Disk.carryOut_of_effect known _).symm⟩
    cases steps with
    | stopped same failed =>
      rw [List.flatMap_cons, List.append_assoc] at served
      obtain ⟨p, disk', does, outcome, _⟩ := served.course
      exact absurd (returned same does outcome).1 failed
    | @next _ _ c _ same succeeded tail =>
      rw [List.flatMap_cons, List.append_assoc] at served
      obtain ⟨p, disk', does, outcome, rest⟩ := served.course
      obtain ⟨o, step⟩ := c.succeeded_iff.mp succeeded
      obtain ⟨p, disk'', does', outcome'⟩ := ih others tail rest
      refine ⟨p, disk'', ?_, ?_⟩
      · rw [Disk.carryOutAll_cons, ← (returned same does outcome).2]
        exact does'
      · simp only [List.length_cons, outcomeAfter, step, outcome']

/-- **A staged script on a machine** comes to what its text comes to. -/
theorem Serves.staged {id text : String} (uuid : isUuid id = true)
    (c : StagedCourse endpoint (.ofScript id text)) {now : Standing}
    (served : m.Serves endpoint shell now (c.exchanges shell)) :
    c.outcome = .ok (m.perform text).outcome := by
  have quotable := StagedScript.quotable_of_isUuid uuid text
  rw [StagedCourse.exchanges, StagedCourse.courses, List.flatMap_append] at served
  have understood : ∀ line ∈ (StagedScript.ofScript id text).setUpLines,
      ∃ effect, Effect.ofLine line = some effect ∧ ∀ path, effect ≠ .run path := fun line h => by
    obtain ⟨effect, known, runsNot, _⟩ := StagedScript.effect_of_setUpLine quotable h
    exact ⟨effect, known, runsNot⟩
  obtain ⟨p, disk', does, outcome⟩ := outcomeAfter_of_serves understood c.inOrder served
  rw [StagedCourse.outcome, outcome]
  -- the file that the last line runs holds the whole text
  rw [does.file _ _ text (Effect.ofLine_runLine quotable)
    (StagedScript.carryOutAll_setUpLines quotable now.disk) (Utf16.decode_encode text)]

/-- **A text in one line on a machine** comes to what it comes to. -/
theorem Serves.single {text : String} {c : LineCourse endpoint}
    (line : c.line = "powershell -encodedcommand " ++ encodeScript text) {now : Standing}
    (served : m.Serves endpoint shell now (c.exchanges shell)) :
    c.outcome = .ok (m.perform text).outcome := by
  rw [← List.append_nil (c.exchanges shell)] at served
  obtain ⟨p, disk', does, outcome, _⟩ := served.course
  rw [outcome, does.encoded _ text line (decodeScript_eq_ok_iff.mpr rfl)]

end Machine

/-! ## The two ways to run a command -/

/-- The hint that asks for staging forces it, whatever the hints were. -/
theorem isForced_withHint (c : Command) :
    (c.withHint Command.forceSplit (.bool true)).isForced = true := by
  have other : (c.hints.filter (·.1 != Command.forceSplit)).lookup Command.forceSplit = none := by
    refine List.lookup_eq_none_iff.mpr fun hint among => ?_
    rw [bne_comm]
    exact (List.mem_filter.mp among).2
  unfold Command.isForced
  simp only [Command.withHint, List.lookup_append, other]
  rfl

/-- **One line and a staged script agree.** A command whose text is no longer than what travels in
one line, and whose hints do not force staging, is run on one connection; the same command with the
hint that forces it is run on another. If one machine serves both shells, however it cuts the
output of either run, both runs have the same answer: what the text comes to, held against the
command. -/
theorem single_and_staged_agree (m : Machine) {command : Command}
    (short : command.text.utf8ByteSize ≤ singleLimit) (unforced : command.isForced = false)
    {id id' : String} (uuid : isUuid id' = true) (s s' : Session) (host host' : String) (w w' : Wire)
    (now now' : Machine.Standing) :
    let single := Connection.run ⟨.connected, some s, host⟩ id command w
    let staged := Connection.run ⟨.connected, some s', host'⟩ id'
      (command.withHint Command.forceSplit (.bool true)) w'
    m.Serves s.endpoint s.shell now (single.2.exchanges.drop w.exchanges.length) →
    m.Serves s'.endpoint s'.shell now' (staged.2.exchanges.drop w'.exchanges.length) →
    single.1 = command.check (m.perform command.text).outcome ∧ staged.1 = single.1 := by
  intro single staged served served'
  have one : Plan.ofCommand id command =
      .single ("powershell -encodedcommand " ++ encodeScript command.text) :=
    if_pos ⟨short, unforced⟩
  have other : Plan.ofCommand id' (command.withHint Command.forceSplit (.bool true)) =
      .staged (.ofScript id' command.text) := by
    refine if_neg fun h => ?_
    rw [isForced_withHint] at h
    cases h.2
  obtain ⟨c, wire, line, sent⟩ := s.run_single one w
  obtain ⟨c', wire', sent'⟩ := s'.run_staged other w'
  have log : single.2.exchanges.drop w.exchanges.length = c.exchanges s.shell := by
    show (s.run id command w).2.exchanges.drop _ = _
    rw [sent.run, sent.exchanges, List.drop_left]
  have log' : staged.2.exchanges.drop w'.exchanges.length = c'.exchanges s'.shell := by
    show (s'.run id' _ w').2.exchanges.drop _ = _
    rw [sent'.run, sent'.exchanges, List.drop_left]
  rw [log] at served
  rw [log'] at served'
  have answer : single.1 = command.check (m.perform command.text).outcome := by
    show (s.run id command w).1 = _
    rw [sent.run, Machine.Serves.single line served]
    rfl
  refine ⟨answer, ?_⟩
  rw [answer]
  show (s'.run id' _ w').1 = _
  rw [sent'.run, Machine.Serves.staged uuid c' served']
  rfl

/-! ## A machine that writes what it is told -/

/-- A request takes the next turn off the wire. -/
theorem Wire.call_of_turns (endpoint : String) (request : Request) {w : Wire} {turn : Turn}
    {rest : List Turn} (taken : w.turns = turn :: rest) :
    ∃ w', w'.turns = rest ∧
      Sends (call endpoint request) w (turn.call endpoint) [⟨endpoint, request, turn⟩] w' := by
  refine ⟨{ w with turns := rest, events := w.events ++ [.exchange ⟨endpoint, request, turn⟩] }, rfl,
    ?_, exchanges_of_events rfl⟩
  show (Turn.call (Wire.exchange endpoint request w).1 endpoint,
    (Wire.exchange endpoint request w).2) = _
  simp only [Wire.exchange, taken]

/-- Polls that complete a command take their turns off the wire, and no other. -/
theorem Wire.drain_of_completes (endpoint shell id : String) {w : Wire} {polls rest : List Turn}
    {last : Turn} {out err : Bytes} {code : Int32}
    (completes : Completes endpoint polls last out err code)
    (taken : w.turns = polls ++ last :: rest) :
    ∃ w', w'.turns = rest ∧
      Sends (Wire.drain endpoint shell id) w
        (.ok ⟨Utf8.decodeLossy out, Utf8.decodeLossy err, code⟩)
        ((polls ++ [last]).map (⟨endpoint, .receive shell id, ·⟩)) w' := by
  obtain ⟨ongoing, done⟩ := completes
  obtain ⟨chunks, unfinished, rfl, rfl⟩ := ongoing.unfinished
  have finished := drain_finished (w.ending.pollFault endpoint) unfinished
    (Turn.poll_of_delivers done) rfl rest
  have count : (WinRm.drain (Turn.poll · endpoint) (w.ending.pollFault endpoint) 0 {}
      (polls ++ last :: rest)).1 = polls.length + 1 := by
    rw [drain_append _ unfinished, WinRm.drain]
    simp only [Turn.poll_of_delivers done, if_true, Nat.zero_add]
  have taken' : (polls ++ last :: rest ++ [w.ending.turn]).take (polls.length + 1) =
      polls ++ [last] := by
    rw [List.append_assoc, List.take_length_add_append]
    rfl
  have left : (polls ++ last :: rest).drop (polls.length + 1) = rest := by
    rw [List.drop_length_add_append]
    rfl
  let log := (polls ++ [last]).map fun turn => Exchange.mk endpoint (.receive shell id) turn
  refine ⟨{ w with turns := rest, events := w.events ++ log.map .exchange }, rfl, ?_,
    exchanges_of_events rfl⟩
  unfold Wire.drain
  simp only [taken, count, finished, taken', left, Chunk.together, List.flatMap_append,
    List.flatMap_singleton, log, List.map_map, Function.comp_def]

/-- **A line whose turns come next** is carried out by them: the start, the polls up to the one that
completes it, and the termination. -/
theorem Session.execute_of_turns (s : Session) (line : String) {w : Wire} {start last stop : Turn}
    {polls rest : List Turn} {id : String} {out err : Bytes} {code : Int32}
    (started : start.startedCommand s.endpoint = .ok id)
    (completes : Completes s.endpoint polls last out err code)
    (taken : w.turns = start :: (polls ++ last :: stop :: rest)) :
    ∃ w', w'.turns = rest ∧
      Sends (s.execute line) w (.ok ⟨Utf8.decodeLossy out, Utf8.decodeLossy err, code⟩)
        (⟨s.endpoint, .command s.shell line, start⟩ ::
          ((polls ++ [last]).map (⟨s.endpoint, .receive s.shell id, ·⟩) ++
            [⟨s.endpoint, .signal s.shell id, stop⟩])) w' := by
  unfold Turn.startedCommand at started
  obtain ⟨w₁, turns₁, sentStart⟩ := Wire.call_of_turns s.endpoint (.command s.shell line) taken
  obtain ⟨w₂, turns₂, sentPolls⟩ :=
    Wire.drain_of_completes s.endpoint s.shell id completes turns₁
  obtain ⟨w₃, turns₃, sentStop⟩ := Wire.call_of_turns s.endpoint (.signal s.shell id) turns₂
  refine ⟨w₃, turns₃, sentStart.bind ?_⟩
  cases called : start.call s.endpoint with
  | error fault =>
    rw [called] at started
    cases started
  | ok reply =>
    rw [called] at started
    simp only [show commandId reply = .ok id from started]
    exact sentPolls.bind (sentStop.bind_pure rfl)

/-- An encoded text is no line of staging. -/
theorem Effect.ofLine_encoded (payload : String) :
    ofLine ("powershell -encodedcommand " ++ payload) = none := by
  have apart : ¬ powershell.toList <+: "powershell -encodedcommand ".toList ∧
      ¬ "powershell -encodedcommand ".toList <+: powershell.toList := by decide +kernel
  refine List.findSome?_eq_none_iff.mpr fun entry _ => ?_
  obtain ⟨form, meaning⟩ := entry
  have unread : form.read? ("powershell -encodedcommand " ++ payload).toList = none := by
    refine if_neg fun opens => ?_
    have whole := List.isPrefixOf_iff_prefix.mp opens
    rw [String.toList_append] at whole
    have called := (List.prefix_append powershell.toList form.opening.toList).trans whole
    rcases List.prefix_or_prefix_of_prefix called (List.prefix_append _ _) with h | h
    · exact apart.1 h
    · exact apart.2 h
  simp only [unread, Option.bind_none]

namespace Machine

variable (m : Machine) (d : Disk)

theorem does_encoded (text : String) :
    m.Does d ("powershell -encodedcommand " ++ encodeScript text) (m.perform text) d where
  encoded payload text' line decoded := by
    cases (String.append_right_inj _).mp line
    rw [decodeScript_eq_ok_iff.mpr rfl] at decoded
    cases decoded
    rfl
  file path content text' known := by
    cases (Effect.ofLine_encoded _).symm.trans known
  staging effect known := by
    cases (Effect.ofLine_encoded _).symm.trans known

theorem does_staging {line : String} {effect : Effect} (known : Effect.ofLine line = some effect)
    (runsNot : ∀ path, effect ≠ .run path) : m.Does d line ⟨[], [], 0⟩ (d.apply effect) where
  encoded payload text line _ := by
    subst line
    cases (Effect.ofLine_encoded payload).symm.trans known
  file path content text run := by
    cases known.symm.trans run
    exact absurd rfl (runsNot path)
  staging effect' known' _ := by
    cases known.symm.trans known'
    exact ⟨rfl, rfl⟩

theorem does_file {line path text : String} (known : Effect.ofLine line = some (.run path))
    (holds : d.files path = some (0xFF :: 0xFE :: Utf16.encode text)) :
    m.Does d line (m.perform text) d where
  encoded payload text line _ := by
    subst line
    cases (Effect.ofLine_encoded payload).symm.trans known
  file path' content text' run there decoded := by
    cases known.symm.trans run
    cases holds.symm.trans there
    rw [Utf16.decode_encode] at decoded
    cases decoded
    rfl
  staging effect run runsNot := by
    cases known.symm.trans run
    exact absurd rfl (runsNot path)

variable {m d} {endpoint shell : String}

/-- **A line is served in any cut**: whatever replies complete it. By induction on those before the
last. -/
theorem Serves.of_completes {disk : Disk} {id : String} {polls : List Turn} {last stop : Turn}
    {out err : Bytes} {code : Int32} (completes : Completes endpoint polls last out err code)
    {more : List Exchange} (rest : m.Serves endpoint shell ⟨disk, none⟩ more) :
    m.Serves endpoint shell ⟨disk, some ⟨id, out, err, code⟩⟩
      ((polls ++ [last]).map (⟨endpoint, .receive shell id, ·⟩) ++
        ⟨endpoint, .signal shell id, stop⟩ :: more) := by
  obtain ⟨ongoing, done⟩ := completes
  induction ongoing with
  | nothing => exact .step (.finish done) (.step .stop rest)
  | output delivers _ ih =>
    rw [List.append_assoc, List.append_assoc]
    exact .step (.output delivers) ih
  | idle idle _ ih => exact .step (.idle idle) ih

end Machine

/-- A line whose turns come next is served by a machine that does it, if its replies hand out what
the machine makes of it. -/
theorem Session.execute_served {m : Machine} (s : Session) {line : String} {disk disk' : Disk}
    {p : Performance} (does : m.Does disk line p disk') (job : Option Machine.Job) {w : Wire}
    {start last stop : Turn} {polls rest : List Turn} {id : String}
    (started : start.startedCommand s.endpoint = .ok id)
    (completes : Completes s.endpoint polls last p.stdout p.stderr p.code)
    (taken : w.turns = start :: (polls ++ last :: stop :: rest)) :
    ∃ w' log, w'.turns = rest ∧ Sends (s.execute line) w (.ok p.outcome) log w' ∧
      ∀ more, m.Serves s.endpoint s.shell ⟨disk', none⟩ more →
        m.Serves s.endpoint s.shell ⟨disk, job⟩ (log ++ more) := by
  obtain ⟨w', turns, sent⟩ := s.execute_of_turns line started completes taken
  refine ⟨w', _, turns, sent, fun more rest => ?_⟩
  rw [List.cons_append, List.append_assoc]
  exact .step (.start started does) (.of_completes completes rest)

/-- A line of staging whose turns come next is served as a step. -/
theorem Session.executeStep_served (m : Machine) (s : Session) {line : String} {effect : Effect}
    (known : Effect.ofLine line = some effect) (runsNot : ∀ path, effect ≠ .run path)
    (disk : Disk) (job : Option Machine.Job) {w : Wire} {start last stop : Turn} {rest : List Turn}
    {id : String} (started : start.startedCommand s.endpoint = .ok id)
    (completes : Completes s.endpoint [] last [] [] 0)
    (taken : w.turns = start :: last :: stop :: rest) :
    ∃ w' log o, w'.turns = rest ∧ Sends (s.executeStep line) w (.ok o) log w' ∧
      ∀ more, m.Serves s.endpoint s.shell ⟨disk.apply effect, none⟩ more →
        m.Serves s.endpoint s.shell ⟨disk, job⟩ (log ++ more) := by
  obtain ⟨w', log, turns, sent, served⟩ :=
    s.execute_served (m.does_staging disk known runsNot) job started completes taken
  exact ⟨w', log, _, turns, sent.bind_pure rfl, served⟩

/-- A machine that writes the text that it runs, and returns three. -/
def Machine.echo : Machine := ⟨fun text => ⟨Utf8.encode text, [], 3⟩⟩

/-- An endpoint that hands out the output in one reply. -/
def Wire.whole : Wire where
  turns := [.starting "C1",
    .answering 200 ("<rsp:Stream Name=\"stdout\">aG9zdG5hbWU=</rsp:Stream>" ++
      "CommandState/Done\"<rsp:ExitCode>3</rsp:ExitCode>"),
    .answering 200 ""]
  ending := .silent

/-- An endpoint that hands out the output of the fourth line in two replies, and finds nothing at the
poll in between. -/
def Wire.halves : Wire where
  turns := ["C1", "C2", "C3"].flatMap Turn.carryingOut ++
    [.starting "C4", .answering 200 "<rsp:Stream Name=\"stdout\">aG9zdA==</rsp:Stream>",
      .answering 500 "2150858793",
      .answering 200 ("<rsp:Stream Name=\"stdout\">bmFtZQ==</rsp:Stream>" ++
        "CommandState/Done\"<rsp:ExitCode>3</rsp:ExitCode>"),
      .answering 200 ""] ++ Turn.carryingOut "C5"
  ending := .silent

theorem Turn.startedCommand_starting (id endpoint : String) :
    (starting id).startedCommand endpoint =
      commandId ("<rsp:CommandId>" ++ id ++ "</rsp:CommandId>") := by
  unfold startedCommand call starting
  rw [response_answering]
  rfl

/-- A reply that is read as a chunk delivers it. -/
theorem Turn.delivers_of_receiveChunk {reply : String} {chunk : Chunk}
    (read : (receiveChunk reply).toOption = some chunk) (endpoint : String) :
    ∃ stdout stderr,
      (answering 200 reply).Delivers endpoint stdout stderr chunk.exitCode chunk.done ∧
        stdout.flatten = chunk.stdout ∧ stderr.flatten = chunk.stderr := by
  cases received : receiveChunk reply with
  | error fault =>
    rw [received] at read
    cases read
  | ok chunk' =>
    rw [received] at read
    cases read
    obtain ⟨stdout, stderr, reports, out, err⟩ := receiveChunk_eq_ok_iff.mp received
    exact ⟨stdout, stderr, delivers_answering reports, out, err⟩

theorem Completes.of_receiveChunk {reply : String} {chunk : Chunk}
    (read : (receiveChunk reply).toOption = some chunk) (done : chunk.done = true)
    {endpoint : String} {polls : List Turn} {out err : Bytes} (ongoing : Ongoing endpoint polls out err) :
    Completes endpoint polls (.answering 200 reply) (out ++ chunk.stdout) (err ++ chunk.stderr)
      (chunk.exitCode.getD 0) := by
  obtain ⟨stdout, stderr, delivers, same, same'⟩ := Turn.delivers_of_receiveChunk read endpoint
  rw [← same, ← same']
  exact .intro ongoing (done ▸ delivers)

/-- A command that is to return what the echo returns. -/
def echoed : Command := { text := "hostname", expectedCode := 3 }

theorem started_starting : ∀ id ∈ ["C1", "C2", "C3", "C4", "C5"],
    (Turn.starting id).startedCommand Session.sample.endpoint = .ok id := by
  have named : ∀ id ∈ ["C1", "C2", "C3", "C4", "C5"],
      (commandId ("<rsp:CommandId>" ++ id ++ "</rsp:CommandId>")).toOption = some id := by
    decide +kernel
  intro id among
  rw [Turn.startedCommand_starting]
  have named := named id among
  cases read : commandId ("<rsp:CommandId>" ++ id ++ "</rsp:CommandId>") with
  | error fault =>
    rw [read] at named
    cases named
  | ok id' =>
    rw [read] at named
    cases named
    rfl

theorem whole_served :
    Machine.echo.Serves Session.sample.endpoint "S1" ⟨⟨[], fun _ => none⟩, none⟩
      ((Connection.run ⟨.connected, some .sample, "win"⟩ "1" echoed .whole).2.exchanges.drop
        Wire.whole.exchanges.length) := by
  have read : (receiveChunk ("<rsp:Stream Name=\"stdout\">aG9zdG5hbWU=</rsp:Stream>" ++
      "CommandState/Done\"<rsp:ExitCode>3</rsp:ExitCode>")).toOption =
        some ⟨Utf8.encode "hostname", [], some 3, true⟩ := by decide +kernel
  have completes : Completes Session.sample.endpoint [] _ (Utf8.encode "hostname") [] 3 :=
    .of_receiveChunk read rfl .nothing
  have does := Machine.echo.does_encoded ⟨[], fun _ => none⟩ "hostname"
  have taken : Wire.whole.turns = _ :: ([] ++ _ :: _ :: []) := rfl
  obtain ⟨w', log, _, sent, served⟩ := Session.sample.execute_served does none
    (started_starting "C1" (by decide)) completes taken
  have run : Sends (Session.sample.run "1" echoed) .whole
      (echoed.check (Machine.echo.perform "hostname").outcome) log w' := sent.bind_pure rfl
  show Machine.echo.Serves _ _ _ ((Session.sample.run "1" echoed .whole).2.exchanges.drop _)
  rw [run.run, run.exchanges, List.drop_left, ← List.append_nil log]
  exact served [] .nothing

theorem halves_served :
    Machine.echo.Serves Session.sample.endpoint "S1" ⟨⟨[], fun _ => none⟩, none⟩
      ((Connection.run ⟨.connected, some .sample, "win"⟩ "6f1c2a34-9b0e-4d5f-8a67-1c2d3e4f5a6b"
        (echoed.withHint Command.forceSplit (.bool true)) .halves).2.exchanges.drop
          Wire.halves.exchanges.length) := by
  let id := "6f1c2a34-9b0e-4d5f-8a67-1c2d3e4f5a6b"
  let script := StagedScript.ofScript id "hostname"
  have quotable : Effect.IsQuotable script.path :=
    StagedScript.quotable_of_isUuid (by decide +kernel) "hostname"
  have silent : (receiveChunk "CommandState/Done\"<rsp:ExitCode>0</rsp:ExitCode>").toOption =
      some ⟨[], [], some 0, true⟩ := by decide +kernel
  have zero : Completes Session.sample.endpoint [] _ [] [] 0 := .of_receiveChunk silent rfl .nothing
  have head : (receiveChunk "<rsp:Stream Name=\"stdout\">aG9zdA==</rsp:Stream>").toOption =
      some ⟨Utf8.encode "host", [], none, false⟩ := by decide +kernel
  have tail : (receiveChunk ("<rsp:Stream Name=\"stdout\">bmFtZQ==</rsp:Stream>" ++
      "CommandState/Done\"<rsp:ExitCode>3</rsp:ExitCode>")).toOption =
        some ⟨Utf8.encode "name", [], some 3, true⟩ := by decide +kernel
  obtain ⟨stdout, stderr, delivers, out, err⟩ :=
    Turn.delivers_of_receiveChunk head Session.sample.endpoint
  have idle : (Turn.answering 500 "2150858793").isIdle Session.sample.endpoint = true := by
    decide +kernel
  have ongoing : Ongoing Session.sample.endpoint [_, _] _ _ := .output delivers (.idle idle .nothing)
  rw [out, err] at ongoing
  have hostname : Completes Session.sample.endpoint [_, _] _ (Utf8.encode "hostname") [] 3 :=
    .of_receiveChunk tail rfl ongoing
  -- one line after another, each on the disk that the one before has left
  let disk₀ : Disk := ⟨[], fun _ => none⟩
  let disk₁ := disk₀.apply (.ensureDirectory stagingDir)
  let disk₂ := disk₁.apply (.write script.path [0xFF, 0xFE])
  let disk₃ := disk₂.apply (.append script.path (Utf16.encode "hostname"))
  have turns : Wire.halves.turns = _ :: _ :: _ :: _ := rfl
  obtain ⟨w₁, log₁, o₁, turns, sent₁, served₁⟩ :=
    Session.sample.executeStep_served .echo Effect.ofLine_ensureDirLine (fun path run => by cases run)
      disk₀ none (started_starting "C1" (by decide)) zero turns
  obtain ⟨w₂, log₂, o₂, turns, sent₂, served₂⟩ :=
    Session.sample.executeStep_served .echo (Effect.ofLine_createLine quotable)
      (fun path run => by cases run) disk₁ none (started_starting "C2" (by decide)) zero turns
  obtain ⟨w₃, log₃, o₃, turns, sent₃, served₃⟩ :=
    Session.sample.executeStep_served .echo
      (Effect.ofLine_appendLine quotable (Utf16.encode "hostname")) (fun path run => by cases run)
      disk₂ none (started_starting "C3" (by decide)) zero turns
  have holds : disk₃.files script.path = some (0xFF :: 0xFE :: Utf16.encode "hostname") := by
    simp only [disk₃, disk₂, Disk.apply, Disk.put_same, Option.getD_some]
    rfl
  have does := Machine.echo.does_file disk₃ (Effect.ofLine_runLine quotable) holds
  obtain ⟨w₄, log₄, turns, sent₄, served₄⟩ :=
    Session.sample.execute_served does none (started_starting "C4" (by decide)) hostname turns
  obtain ⟨w₅, log₅, o₅, turns, sent₅, served₅⟩ :=
    Session.sample.executeStep_served .echo (Effect.ofLine_cleanupLine quotable)
      (fun path run => by cases run) disk₃ none (started_starting "C5" (by decide)) zero turns
  have pieces : script.appendLines =
      [script.appendLine (.ofList (Base64.encode (Utf16.encode "hostname")))] := by
    have one : Hostlink.pieces 3000 (Utf16.encode "hostname") = [Utf16.encode "hostname"] := by
      decide +kernel
    rw [Effect.appendLines_ofScript, one]
    rfl
  have filled : Sends (Session.sample.executeSteps script.appendLines) w₂ (.ok ()) log₃ w₃ := by
    rw [pieces]
    exact sent₃.bind_pure rfl
  have fill : Sends (Session.sample.fillAndRun script) w₂ _ (log₃ ++ log₄) w₄ := filled.bind sent₄
  have staged : Sends (Session.sample.executeStaged script) .halves _
      (log₁ ++ (log₂ ++ (log₃ ++ log₄ ++ log₅))) w₅ :=
    sent₁.bind (sent₂.bind (fill.bind (sent₅.bind_pure rfl)))
  have run : Sends (Session.sample.run id (echoed.withHint Command.forceSplit (.bool true))) .halves
      (echoed.check (Machine.echo.perform "hostname").outcome) _ w₅ := staged.bind_pure rfl
  show Machine.echo.Serves _ _ _ ((Session.sample.run id _ .halves).2.exchanges.drop _)
  rw [run.run, run.exchanges, List.drop_left, List.append_assoc]
  have rest := served₅ [] .nothing
  rw [List.append_nil] at rest
  exact served₁ _ (served₂ _ (served₃ _ (served₄ _ rest)))

/-- Either run of the echo comes to the same, though its output is cut in one and whole in the
other. -/
theorem single_and_staged_agree_hostname :
    let single := Connection.run ⟨.connected, some .sample, "win"⟩ "1" echoed .whole
    let staged := Connection.run ⟨.connected, some .sample, "win"⟩
      "6f1c2a34-9b0e-4d5f-8a67-1c2d3e4f5a6b" (echoed.withHint Command.forceSplit (.bool true)) .halves
    single.1 = .ok ⟨"hostname", "", 3⟩ ∧ staged.1 = .ok ⟨"hostname", "", 3⟩ := by
  intro single staged
  obtain ⟨answer, same⟩ := single_and_staged_agree .echo (by decide +kernel) rfl
    (by decide +kernel) .sample .sample "win" "win" .whole .halves _ _ whole_served halves_served
  have text : (Machine.echo.perform "hostname").outcome = ⟨"hostname", "", 3⟩ := by decide +kernel
  have single : single.1 = .ok ⟨"hostname", "", 3⟩ :=
    answer.trans (congrArg echoed.check text)
  exact ⟨single, same.trans single⟩

end Hostlink.WinRm
