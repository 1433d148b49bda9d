import Hostlink.Proofs.WinRm.Staging

/-!
# The history of a connection

Whatever is done with a connection and whatever the endpoints answer, the log is a sequence of
sessions. A session begins with requests to create a shell, of which only the last can bring one.
If it brings one, command lines take their courses in that shell, and at the end the shell is asked
to be deleted, once; only then does the next session begin.

`SessionLog` is the type of these sequences of exchanges, and `Connection.History` ties them to the
state: a connection that keeps a session is in the middle of the last one of its log, and all
others are over. Every operation preserves it, `Connection.perform_history`, and so does every run,
`Connection.performAll_history`.

Nothing here asks that a reply be well-formed or that a shell be new: an endpoint may hand out one
shell twice, and the sessions of the log are still told apart by their requests to create it.
-/

namespace Hostlink.WinRm

/-! ## Opening a shell -/

/-- The shell that a turn brings, where it is the answer to a request to create one. -/
def Turn.createdShell (t : Turn) (endpoint : String) : Attempt String :=
  match t.call endpoint with
  | .error fault => .error (shellFault fault)
  | .ok reply => shellId reply

/-- **Requests to create a shell**: each but the last found the dial refused, and the last one is
what they come to. -/
inductive Opening (endpoint : String) : List Turn → Attempt String → Prop
  | last {turn : Turn} {outcome : Attempt String} (h : turn.createdShell endpoint = outcome) :
      Opening endpoint [turn] outcome
  | again {turn : Turn} {fault : LinkFault} {rest : List Turn} {outcome : Attempt String}
      (h : turn.createdShell endpoint = .error fault) (refused : fault.isRefused = true)
      (tail : Opening endpoint rest outcome) : Opening endpoint (turn :: rest) outcome

theorem Wire.sends_createShell (endpoint : String) (w : Wire) :
    ∃ turn w', Sends (createShell endpoint) w (turn.createdShell endpoint)
      [⟨endpoint, .create, turn⟩] w' := by
  obtain ⟨turn, w', h⟩ := sends_call endpoint .create w
  refine ⟨turn, w', h.bind_pure ?_⟩
  unfold Turn.createdShell
  cases turn.call endpoint <;> rfl

/-- **Connect attempts are an opening.** The induction is on the attempts left. -/
theorem Wire.sends_retry (endpoint : String) (seconds attempts : Nat) (w : Wire) :
    ∃ creates outcome w', Opening endpoint creates outcome ∧
      Sends (Link.retry (pause seconds) (createShell endpoint) attempts) w outcome
        (creates.map (⟨endpoint, .create, ·⟩)) w' := by
  induction attempts generalizing w with
  | zero =>
    obtain ⟨turn, w', h⟩ := sends_createShell endpoint w
    exact ⟨[turn], _, w', .last rfl, h⟩
  | succ attempts ih =>
    obtain ⟨turn, w₁, h⟩ := sends_createShell endpoint w
    cases attempts with
    | zero => exact ⟨[turn], _, w₁, .last rfl, h⟩
    | succ attempts =>
      cases created : turn.createdShell endpoint with
      | ok shell =>
        rw [created] at h
        refine ⟨[turn], _, w₁, .last created, ?_, h.exchanges⟩
        simp only [Link.retry, h.run]
      | error fault =>
        rw [created] at h
        cases refused : fault.isRefused with
        | false =>
          refine ⟨[turn], _, w₁, .last created, ?_, h.exchanges⟩
          simp only [Link.retry, h.run, refused, Bool.false_eq_true, if_false]
        | true =>
          obtain ⟨w₂, hpause⟩ := sends_pause seconds w₁
          obtain ⟨creates, outcome, w₃, opening, hrest⟩ := ih w₂
          refine ⟨turn :: creates, outcome, w₃, .again created refused opening, ?_, ?_⟩
          · simp only [Link.retry, h.run, refused, if_true, hpause.run]
            exact hrest.run
          · rw [hrest.exchanges, hpause.exchanges, h.exchanges, List.append_nil, List.append_assoc]
            rfl

/-- **Opening a session** sends nothing where the certificate is not acceptable, and otherwise it is
an opening on the endpoint of the target, which the session keeps along with the shell. -/
theorem Session.open_course (station : Station) (t : Target) (login : Login) (w : Wire) :
    (∃ fault, Sends (Session.open station t login) w (.error fault) [] w) ∨
    (∃ creates fault w', Opening t.endpoint creates (.error fault) ∧
      Sends (Session.open station t login) w (.error fault)
        (creates.map (⟨t.endpoint, .create, ·⟩)) w') ∨
    ∃ creates shell identity w', Opening t.endpoint creates (.ok shell) ∧
      Sends (Session.open station t login) w (.ok ⟨identity, t.endpoint, shell⟩)
        (creates.map (⟨t.endpoint, .create, ·⟩)) w' := by
  unfold Session.open
  cases checkCertificate station t with
  | error fault => exact .inl ⟨fault, .pure _ w⟩
  | ok _ =>
    right
    obtain ⟨creates, outcome, w', opening, h⟩ :=
      Wire.sends_retry t.endpoint t.pause.toNat t.retryAttempts w
    cases outcome with
    | error fault => exact .inl ⟨creates, fault, w', opening, h.bind_pure rfl⟩
    | ok shell => exact .inr ⟨creates, shell, _, w', opening, h.bind_pure rfl⟩

/-- **Connecting without a session** sends nothing where the login or the certificate is not there,
and otherwise it is an opening. The session that it brings is kept. -/
theorem Connection.connect_course {c : Connection} (apart : c.phase.hasSession = false)
    (station : Station) (t : Target) (w : Wire) :
    (∃ fault, Sends (c.connect station t) w (.error fault, c) [] w) ∨
    (∃ creates fault w', Opening t.endpoint creates (.error fault) ∧
      Sends (c.connect station t) w (.error fault, c)
        (creates.map (⟨t.endpoint, .create, ·⟩)) w') ∨
    ∃ creates shell identity w', Opening t.endpoint creates (.ok shell) ∧
      Sends (c.connect station t) w
        (.ok (), ⟨.connected, some ⟨identity, t.endpoint, shell⟩, t.address⟩)
        (creates.map (⟨t.endpoint, .create, ·⟩)) w' := by
  simp only [connect, apart, Bool.false_eq_true, if_false]
  cases Login.ofTarget t with
  | error fault => exact .inl ⟨fault, .pure _ w⟩
  | ok login =>
    rcases Session.open_course station t login w with
      ⟨fault, h⟩ | ⟨creates, fault, w', opening, h⟩ | ⟨creates, shell, identity, w', opening, h⟩
    · exact .inl ⟨fault, h.bind_pure rfl⟩
    · exact .inr (.inl ⟨creates, fault, w', opening, h.bind_pure rfl⟩)
    · exact .inr (.inr ⟨creates, shell, identity, w', opening, h.bind_pure rfl⟩)

/-- Closing a session is one request to delete its shell. -/
theorem Session.sends_close (s : Session) (w : Wire) :
    ∃ turn answer w', Sends s.close w answer [⟨s.endpoint, .delete s.shell, turn⟩] w' := by
  obtain ⟨turn, w', h⟩ := Wire.sends_call s.endpoint (.delete s.shell) w
  unfold Session.close
  cases answered : turn.call s.endpoint with
  | error fault => exact ⟨turn, _, w', (answered ▸ h).bind_pure rfl⟩
  | ok reply => exact ⟨turn, _, w', (answered ▸ h).bind_pure rfl⟩

/-- Disconnecting with a session is that request. -/
theorem Connection.disconnect_deletes {phase : Link.Phase} (live : phase.hasSession = true)
    (session : Session) (host : String) (w : Wire) :
    ∃ turn w', Sends (disconnect ⟨phase, some session, host⟩) w
      (.ok (), ⟨.disconnected, none, host⟩) [⟨session.endpoint, .delete session.shell, turn⟩] w' := by
  obtain ⟨turn, _, w', closed⟩ := session.sends_close w
  refine ⟨turn, w', ?_⟩
  simp only [disconnect, live, if_true]
  exact closed.bind_pure rfl

/-- **Running a command** sends courses of command lines and nothing else: one for a command in one
line, those of the script for a staged one. -/
theorem Session.run_courses (s : Session) (id : String) (command : Command) (w : Wire) :
    ∃ (lines : List (LineCourse s.endpoint)) (outcome : Attempt Outcome) (w' : Wire),
      Sends (s.run id command) w outcome (lines.flatMap (·.exchanges s.shell)) w' := by
  cases plan : Plan.ofCommand id command with
  | single line =>
    obtain ⟨c, w', -, h⟩ := s.run_single plan w
    refine ⟨[c], c.outcome.bind command.check, w', ?_⟩
    rw [List.flatMap_singleton]
    exact h
  | staged script =>
    obtain ⟨c, w', h⟩ := s.run_staged plan w
    exact ⟨c.courses, _, w', h⟩

/-! ## The log of a session -/

/-- **The log of one session.** -/
inductive SessionLog where
  /-- No request to create a shell brought one. -/
  | unopened (endpoint : String) (creates : List Turn) (fault : LinkFault)
      (opening : Opening endpoint creates (.error fault))
  /-- A shell was opened, lines were sent to it, and it was asked to be deleted at most once. -/
  | opened (endpoint : String) (creates : List Turn) (shell : String)
      (opening : Opening endpoint creates (.ok shell)) (lines : List (LineCourse endpoint))
      (deletion : Option Turn)

namespace SessionLog

def exchanges : SessionLog → List Exchange
  | unopened endpoint creates .. => creates.map (⟨endpoint, .create, ·⟩)
  | opened endpoint creates shell _ lines deletion =>
    creates.map (⟨endpoint, .create, ·⟩) ++ lines.flatMap (·.exchanges shell) ++
      deletion.toList.map (⟨endpoint, .delete shell, ·⟩)

/-- **The session is over**: it never came to a shell, or the shell was asked to be deleted. -/
def IsOver : SessionLog → Prop
  | unopened .. => True
  | opened _ _ _ _ _ deletion => deletion.isSome

end SessionLog

/-- **The history of a connection** that has logged these sessions. -/
inductive Connection.History : Connection → List SessionLog → Prop
  /-- Without a session, all that were logged are over. -/
  | closed {host : String} {logs : List SessionLog} (ended : ∀ log ∈ logs, log.IsOver) :
      History ⟨.disconnected, none, host⟩ logs
  /-- With a session, the last one logged has its endpoint and its shell and is not over; all
  others are. -/
  | kept {phase : Link.Phase} {session : Session} {host : String} {earlier : List SessionLog}
      {creates : List Turn} (opening : Opening session.endpoint creates (.ok session.shell))
      (lines : List (LineCourse session.endpoint)) (live : phase.hasSession = true)
      (ended : ∀ log ∈ earlier, log.IsOver) :
      History ⟨phase, some session, host⟩
        (earlier ++ [.opened session.endpoint creates session.shell opening lines none])

/-! ## Operations -/

/-- An operation on a connection. -/
inductive Operation where
  | connect (station : Station) (target : Target)
  /-- A command; `id` names the file of a staged script. -/
  | run (id : String) (command : Command)
  | move (m : Link.Move)
  | disconnect

namespace Connection

/-- Carries out an operation, whose answer is not looked at. -/
def perform (c : Connection) : Operation → StateM Wire Connection
  | .connect station target => do return (← c.connect station target).2
  | .run id command => do
    let _ ← c.run id command
    return c
  | .move m => return (c.move m).2
  | .disconnect => do return (← c.disconnect).2

def performAll (c : Connection) : List Operation → StateM Wire Connection
  | [] => return c
  | op :: ops => do (← c.perform op).performAll ops

/-- What an operation may do to a history: it sends `sent`, and the sessions logged then are those
of the new connection, with `sent` as the latest exchanges. -/
def Extends (logs : List SessionLog) (c' : Connection) (sent : List Exchange) : Prop :=
  ∃ logs', History c' logs' ∧ logs'.flatMap (·.exchanges) = logs.flatMap (·.exchanges) ++ sent

theorem Extends.nothing {logs : List SessionLog} {c : Connection} (h : History c logs) :
    Extends logs c [] :=
  ⟨logs, h, (List.append_nil _).symm⟩

theorem Extends.newest {logs : List SessionLog} {c' : Connection} (log : SessionLog)
    (h : History c' (logs ++ [log])) : Extends logs c' log.exchanges :=
  ⟨logs ++ [log], h, by rw [List.flatMap_append, List.flatMap_singleton]⟩

theorem Extends.grown {earlier : List SessionLog} {c' : Connection} {log log' : SessionLog}
    {sent : List Exchange} (h : History c' (earlier ++ [log']))
    (grown : log'.exchanges = log.exchanges ++ sent) : Extends (earlier ++ [log]) c' sent := by
  refine ⟨earlier ++ [log'], h, ?_⟩
  rw [List.flatMap_append, List.flatMap_append, List.flatMap_singleton, List.flatMap_singleton,
    grown, List.append_assoc]

theorem History.closed_append {host : String} {logs : List SessionLog} {log : SessionLog}
    (ended : ∀ log ∈ logs, log.IsOver) (last : log.IsOver) :
    History ⟨.disconnected, none, host⟩ (logs ++ [log]) := by
  refine .closed fun log' h => ?_
  rcases List.mem_append.mp h with h | h
  · exact ended log' h
  · rw [List.mem_singleton.mp h]
    exact last

/-- **Connecting** begins a session where there is none. -/
theorem connect_extends {c : Connection} {logs : List SessionLog} (h : History c logs)
    (station : Station) (t : Target) (w : Wire) :
    ∃ answer c' sent w', Sends (c.connect station t) w (answer, c') sent w' ∧
      Extends logs c' sent := by
  have same := Extends.nothing h
  cases h with
  | kept _ _ live =>
    refine ⟨.ok (), _, [], w, ?_, same⟩
    simp only [connect, live, if_true]
    exact .pure _ w
  | @closed host _ ended =>
    have apart : Link.Phase.hasSession .disconnected = false := rfl
    rcases connect_course (c := ⟨.disconnected, none, host⟩) apart station t w with
      ⟨fault, h⟩ | ⟨creates, fault, w', opening, h⟩ | ⟨creates, shell, identity, w', opening, h⟩
    · exact ⟨.error fault, _, [], w, h, same⟩
    · refine ⟨.error fault, _, _, w', h, ?_⟩
      exact .newest (.unopened _ _ _ opening) (.closed_append ended trivial)
    · let session : Session := ⟨identity, t.endpoint, shell⟩
      have history : History ⟨.connected, some session, t.address⟩
          (logs ++ [.opened t.endpoint creates shell opening [] none]) := .kept opening [] rfl ended
      refine ⟨.ok (), _, _, w', h, ?_⟩
      simpa only [SessionLog.exchanges, List.flatMap_nil, Option.toList_none, List.map_nil,
        List.append_nil] using Extends.newest _ history

/-- **Running a command** sends courses of lines in the session that is kept, and nothing without
one or while the connection is suspended. The connection is as before. -/
theorem run_extends {c : Connection} {logs : List SessionLog} (h : History c logs) (id : String)
    (command : Command) (w : Wire) :
    ∃ answer sent w', Sends (c.run id command) w answer sent w' ∧ Extends logs c sent := by
  have same := Extends.nothing h
  cases h with
  | closed => exact ⟨_, [], w, .pure _ w, same⟩
  | @kept phase session host earlier creates opening lines live ended =>
    cases phase with
    | disconnected => cases live
    | suspended => exact ⟨_, [], w, .pure _ w, same⟩
    | connected =>
      obtain ⟨more, answer, w', h⟩ := session.run_courses id command w
      refine ⟨answer, _, w', h, .grown (.kept opening (lines ++ more) rfl ended) ?_⟩
      simp only [SessionLog.exchanges, List.flatMap_append, Option.toList_none, List.map_nil,
        List.append_nil, List.append_assoc]

/-- **Disconnecting** asks to delete the shell that is kept, whatever comes of it. -/
theorem disconnect_extends {c : Connection} {logs : List SessionLog} (h : History c logs)
    (w : Wire) :
    ∃ answer c' sent w', Sends c.disconnect w (answer, c') sent w' ∧ Extends logs c' sent := by
  have same := Extends.nothing h
  cases h with
  | closed => exact ⟨.ok (), _, [], w, .pure _ w, same⟩
  | @kept phase session host earlier creates opening lines live ended =>
    obtain ⟨turn, w', h⟩ := disconnect_deletes live session host w
    have ended' : (SessionLog.opened _ creates _ opening lines (some turn)).IsOver := rfl
    refine ⟨.ok (), _, _, w', h, .grown (.closed_append ended ended') ?_⟩
    simp only [SessionLog.exchanges, Option.toList_none, Option.toList_some, List.map_nil,
      List.map_singleton, List.append_nil]

/-- **Suspending and restoring** send nothing and keep the session. -/
theorem move_history {c : Connection} {logs : List SessionLog} (h : History c logs)
    (m : Link.Move) : History (c.move m).2 logs := by
  cases h with
  | closed ended => exact .closed ended
  | @kept phase session host earlier creates opening lines live ended =>
    simp only [move, Link.Phase.apply, Link.Phase.move?, live, if_true]
    cases m with
    | suspend => exact .kept opening lines rfl ended
    | restore => exact .kept opening lines rfl ended

/-- **An operation extends a history.** -/
theorem perform_history {c : Connection} {logs : List SessionLog} (h : History c logs)
    (op : Operation) (w : Wire) :
    ∃ c' sent w', Sends (c.perform op) w c' sent w' ∧ Extends logs c' sent := by
  cases op with
  | connect station target =>
    obtain ⟨_, c', sent, w', h, extended⟩ := connect_extends h station target w
    exact ⟨c', sent, w', h.bind_pure rfl, extended⟩
  | run id command =>
    obtain ⟨_, sent, w', h, extended⟩ := run_extends h id command w
    exact ⟨c, sent, w', h.bind_pure rfl, extended⟩
  | move m => exact ⟨_, [], w, .pure _ w, .nothing (move_history h m)⟩
  | disconnect =>
    obtain ⟨_, c', sent, w', h, extended⟩ := disconnect_extends h w
    exact ⟨c', sent, w', h.bind_pure rfl, extended⟩

/-- Operations one after another extend a history. By induction on the operations. -/
theorem performAll_extends {c : Connection} {logs : List SessionLog} (h : History c logs)
    (ops : List Operation) (w : Wire) :
    ∃ c' sent w', Sends (c.performAll ops) w c' sent w' ∧ Extends logs c' sent := by
  induction ops generalizing c logs w with
  | nil => exact ⟨c, [], w, .pure c w, .nothing h⟩
  | cons op ops ih =>
    obtain ⟨c₁, sent, w₁, first, logs₁, h₁, extended⟩ := perform_history h op w
    obtain ⟨c₂, sent', w₂, rest, logs₂, h₂, extended'⟩ := ih h₁ w₁
    refine ⟨c₂, sent ++ sent', w₂, first.bind rest, logs₂, h₂, ?_⟩
    rw [extended', extended, List.append_assoc]

/-- **Every run is a sequence of sessions**: whatever is done with a new connection, and whatever the
endpoints answer to each request, the log grows by the exchanges of sessions. All of them are over,
save for the last one where the connection keeps its session. -/
theorem performAll_history (ops : List Operation) (w : Wire) :
    ∃ (c : Connection) (w' : Wire) (logs : List SessionLog),
      Connection.performAll {} ops w = (c, w') ∧ History c logs ∧
      w'.exchanges = w.exchanges ++ logs.flatMap (·.exchanges) := by
  have new : History {} [] := .closed (List.forall_mem_nil _)
  obtain ⟨c, sent, w', h, logs, history, extended⟩ := performAll_extends new ops w
  refine ⟨c, w', logs, h.run, history, ?_⟩
  rw [h.exchanges, extended]
  rfl

end Connection

end Hostlink.WinRm
