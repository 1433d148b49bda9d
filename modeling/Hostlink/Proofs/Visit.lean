import Hostlink.Proofs.Connecting
import Hostlink.Proofs.Lifecycle

/-!
# Visits to a target

A visit is what lies between a new connection and its end: it is connected, commands are run on it,
and it is disconnected. `Surroundings.OnlyAttempts` and `Surroundings.OpenedAndClosed` are the two
things that can be seen of it on the wires, and `Connection.establish_cases` says which of them it
is. A connect that fails leaves attempts and nothing to close. One that succeeds opens a session,
and whatever commands are run in it, disconnecting asks for its end as the last thing that is sent.

The commands may be any, in any number and with any answers; that a program does nothing else with
its connection is `Connection.OnlyRuns`.
-/

namespace Hostlink

/-! ## Commands in a row -/

namespace Connection

/-- **Commands run in a row** on a connection, whatever they come to. -/
inductive Runs (c : Connection) : Surroundings → List Command → Surroundings → Prop
  | done {s : Surroundings} : Runs c s [] s
  | next {command : Command} {commands : List Command} {s s' final : Surroundings}
      (taken : (c.run command s).2 = s') (rest : Runs c s' commands final) :
      Runs c s (command :: commands) final

theorem Runs.append {c : Connection} {s s' s'' : Surroundings} {commands commands' : List Command}
    (h : c.Runs s commands s') (h' : c.Runs s' commands' s'') :
    c.Runs s (commands ++ commands') s'' := by
  induction h with
  | done => exact h'
  | next taken _ ih => exact .next taken (ih h')

/-- **A program that only runs commands** on a connection. -/
def OnlyRuns (c : Connection) {α : Type} (act : StateM Surroundings α) : Prop :=
  ∀ s, ∃ commands, c.Runs s commands (act s).2

namespace OnlyRuns

variable {c : Connection} {α β : Type}

theorem pure (a : α) : c.OnlyRuns (Pure.pure a : StateM Surroundings α) := by
  intro s
  exact ⟨[], .done⟩

theorem bind {act : StateM Surroundings α} {next : α → StateM Surroundings β}
    (first : c.OnlyRuns act) (second : ∀ a, c.OnlyRuns (next a)) : c.OnlyRuns (act >>= next) := by
  intro s
  obtain ⟨commands, runs⟩ := first s
  obtain ⟨commands', runs'⟩ := second (act s).1 (act s).2
  exact ⟨commands ++ commands', runs.append runs'⟩

theorem run (c : Connection) (command : Command) : c.OnlyRuns (c.run command) := by
  intro s
  exact ⟨[command], .next rfl .done⟩

end OnlyRuns

end Connection

/-! ## Over SSH -/

namespace Ssh

/-- Whether it is part of an attempt to connect. -/
def Event.isAttempt : Event → Bool
  | .dial _ | .login .. | .pause _ => true
  | .opening _ | .exec _ | .closing _ => false

/-- Whether the server is asked to close the session. -/
def Event.isClosing : Event → Bool
  | .closing _ => true
  | .dial _ | .login .. | .opening _ | .exec _ | .pause _ => false

/-- **From a wire to a later one**, with nothing recorded but what `p` holds of. -/
def Wire.Records (p : Event → Prop) (w w' : Wire) : Prop :=
  ∃ news, w'.events = w.events ++ news ∧ ∀ e ∈ news, p e

namespace Wire.Records

variable {p : Event → Prop} {w w' w'' : Wire}

theorem refl (w : Wire) : w.Records p w :=
  ⟨[], (List.append_nil _).symm, List.forall_mem_nil _⟩

theorem trans (h : w.Records p w') (h' : w'.Records p w'') : w.Records p w'' := by
  obtain ⟨news, events, all⟩ := h
  obtain ⟨news', events', all'⟩ := h'
  refine ⟨news ++ news', ?_, List.forall_mem_append.mpr ⟨all, all'⟩⟩
  rw [events', events, List.append_assoc]

theorem imp {q : Event → Prop} (h : w.Records p w') (implies : ∀ e, p e → q e) :
    w.Records q w' := by
  obtain ⟨news, events, all⟩ := h
  exact ⟨news, events, fun e among => implies e (all e among)⟩

end Wire.Records

theorem records_establish (address : String) (l : Login) (w : Wire) :
    w.Records (·.isAttempt) (establish address l w).2 := by
  obtain ⟨d, _, events⟩ := establish_attempt address l w
  refine ⟨d.events l, events, ?_⟩
  cases d with
  | failed | unready | stalled | garbled =>
    intro e among
    cases List.mem_singleton.mp among
    rfl
  | reached answer =>
    intro e among
    rcases List.mem_cons.mp among with rfl | among
    · rfl
    · cases List.mem_singleton.mp among
      rfl

theorem Connection.records_connect (c : Connection) (station : Station) (t : Target) (w : Wire) :
    w.Records (·.isAttempt) (c.connect station t w).2 := by
  unfold connect
  cases c.phase.hasSession with
  | true => exact .refl w
  | false =>
    simp only [Bool.false_eq_true, if_false]
    cases Login.ofTarget station t with
    | error fault => exact .refl w
    | ok login =>
      have paused (w : Wire) : w.Records (·.isAttempt) (Wire.pause t.pause.toNat w).2 :=
        ⟨[.pause _], rfl, List.forall_mem_singleton.mpr rfl⟩
      have tried := Link.retry_keeps (R := Wire.Records (·.isAttempt)) Wire.Records.trans paused
        (records_establish t.socketAddress login) t.retryAttempts w
      simp only [bind, StateT.bind]
      rcases came : Link.retry (Wire.pause t.pause.toNat) (establish t.socketAddress login)
        t.retryAttempts w with ⟨answer, w'⟩
      rw [came] at tried
      cases answer with
      | error | ok => exact tried

theorem Wire.records_exec (line : String) (w : Wire) :
    w.Records (·.isClosing = false) (Wire.exec line w).2 := by
  have started : ∀ e ∈ [Event.opening true, .exec line], e.isClosing = false :=
    List.forall_mem_cons.mpr ⟨rfl, List.forall_mem_singleton.mpr rfl⟩
  unfold Wire.exec
  cases w.lost with
  | true => exact .refl w
  | false =>
    cases w.openings with
    | nil => exact ⟨_, rfl, started⟩
    | cons opening later =>
      cases opening with
      | opened => exact ⟨_, rfl, started⟩
      | refused => exact ⟨[.opening false], rfl, List.forall_mem_singleton.mpr rfl⟩
      | unsent => exact ⟨[.opening true], rfl, List.forall_mem_singleton.mpr rfl⟩

theorem Connection.records_run (c : Connection) (command : Command) (w : Wire) :
    w.Records (·.isClosing = false) (c.run command w).2 := by
  unfold run
  cases c.phase.ensureRunnable with
  | error fault => exact .refl w
  | ok _ =>
    cases c.session with
    | none => exact .refl w
    | some session =>
      have executed := Wire.records_exec command.text w
      simp only [bind, StateT.bind]
      rcases came : Wire.exec command.text w with ⟨answer, w'⟩
      rw [came] at executed
      cases answer with
      | error | ok => exact executed

theorem Connection.disconnect_asks (session : Session) (host : String) (w : Wire) :
    ∃ failure w', disconnect ⟨.connected, some session, host⟩ w =
        ((.ok (), ⟨.disconnected, none, host⟩), w') ∧
      w'.events = w.events ++ [.closing failure] :=
  ⟨_, _, rfl, rfl⟩

end Ssh

/-! ## Over WinRM -/

namespace WinRm

/-- The shell that a request asks to delete. -/
def Request.deleted? : Request → Option String
  | .delete shell => some shell
  | .create | .command .. | .receive .. | .signal .. => none

/-- The shells that a log asks to delete, in order. -/
def deletions (log : List Exchange) : List String := log.filterMap (·.request.deleted?)

theorem LineCourse.deletions_exchanges {endpoint : String} (c : LineCourse endpoint)
    (shell : String) : deletions (c.exchanges shell) = [] := by
  cases c with
  | refused => rfl
  | started line start id polls =>
    refine List.filterMap_eq_nil_iff.mpr (List.forall_mem_cons.mpr ⟨rfl, ?_⟩)
    refine List.forall_mem_append.mpr ⟨?_, List.forall_mem_singleton.mpr rfl⟩
    exact List.forall_mem_map.mpr fun _ _ => rfl

/-- **One deletion for a session**, that of its own shell, and none while it lasts. -/
theorem SessionLog.deletions_opened (endpoint : String) (creates : List Turn) (shell : String)
    (opening : Opening endpoint creates (.ok shell)) (lines : List (LineCourse endpoint))
    (deletion : Option Turn) :
    deletions (opened endpoint creates shell opening lines deletion).exchanges =
      deletion.toList.map fun _ => shell := by
  have created : deletions (creates.map (⟨endpoint, .create, ·⟩)) = [] :=
    List.filterMap_eq_nil_iff.mpr (List.forall_mem_map.mpr fun _ _ => rfl)
  have run : deletions (lines.flatMap (·.exchanges shell)) = [] := by
    rw [deletions, List.filterMap_flatMap]
    exact List.flatMap_eq_nil_iff.mpr fun c _ => c.deletions_exchanges shell
  have deleted : deletions (deletion.toList.map (⟨endpoint, .delete shell, ·⟩)) =
      deletion.toList.map fun _ => shell := by
    cases deletion with
    | none | some => rfl
  unfold deletions at created run deleted ⊢
  rw [exchanges, List.filterMap_append, List.filterMap_append, created, run, deleted]
  rfl

end WinRm

/-! ## What a visit leaves on the wires -/

namespace Surroundings

/-- **Only attempts to connect** to a target, and nothing by the other transport. -/
inductive OnlyAttempts (t : Target) (s s' : Surroundings) : Prop
  | ssh (transport : t.transport = .ssh) (other : s'.winRm = s.winRm)
      (attempts : s.ssh.Records (·.isAttempt) s'.ssh)
  | winRm (transport : t.transport = .winRm) (other : s'.ssh = s.ssh) {creates : List WinRm.Turn}
      (attempts : s'.winRm.exchanges =
        s.winRm.exchanges ++ creates.map (⟨t.endpoint, .create, ·⟩))

/-- **A session that is opened and closed.** What asks for its end is sent once, as the last thing;
over WinRM it is the request to delete the shell that the session was given. -/
inductive OpenedAndClosed (t : Target) (s s' : Surroundings) : Prop
  | ssh (transport : t.transport = .ssh) (other : s'.winRm = s.winRm) {before : List Ssh.Event}
      {failure : Option String}
      (events : s'.ssh.events = s.ssh.events ++ (before ++ [.closing failure]))
      (once : ∀ e ∈ before, e.isClosing = false)
  | winRm (transport : t.transport = .winRm) (other : s'.ssh = s.ssh) {creates : List WinRm.Turn}
      {shell : String} (opening : WinRm.Opening t.endpoint creates (.ok shell))
      (lines : List (WinRm.LineCourse t.endpoint)) (deletion : WinRm.Turn)
      {sent : List WinRm.Exchange}
      (log : sent = (WinRm.SessionLog.opened t.endpoint creates shell opening lines
        (some deletion)).exchanges)
      (exchanges : s'.winRm.exchanges = s.winRm.exchanges ++ sent)
      (once : WinRm.deletions sent = [shell])
      (last : sent.getLast? = some ⟨t.endpoint, .delete shell, deletion⟩)

end Surroundings

namespace Connection

theorem Runs.onSsh {c : Ssh.Connection} {s final : Surroundings} {commands : List Command}
    (h : (Connection.ssh c).Runs s commands final) :
    final.winRm = s.winRm ∧ s.ssh.Records (·.isClosing = false) final.ssh := by
  generalize same : Connection.ssh c = connection at h
  induction h with
  | done => exact ⟨rfl, .refl _⟩
  | @next command commands s s' final taken rest ih =>
    obtain ⟨other, records⟩ := ih
    subst same taken
    exact ⟨other, (c.records_run command s.ssh).trans records⟩

theorem Runs.onWinRm {session : WinRm.Session} {host : String} {s final : Surroundings}
    {commands : List Command}
    (h : (Connection.winRm ⟨.connected, some session, host⟩).Runs s commands final) :
    final.ssh = s.ssh ∧ ∃ lines : List (WinRm.LineCourse session.endpoint),
      final.winRm.exchanges =
        s.winRm.exchanges ++ lines.flatMap (·.exchanges session.shell) := by
  generalize same : Connection.winRm ⟨.connected, some session, host⟩ = connection at h
  induction h with
  | done => exact ⟨rfl, [], (List.append_nil _).symm⟩
  | @next command commands s s' final taken rest ih =>
    obtain ⟨other, lines, exchanges⟩ := ih
    subst same taken
    obtain ⟨now, outcome, w, sends⟩ := session.run_courses (s.scriptId s.usedIds) command s.winRm
    refine ⟨other, now ++ lines, ?_⟩
    have sent : (session.run (s.scriptId s.usedIds) command s.winRm).2.exchanges =
        s.winRm.exchanges ++ now.flatMap (·.exchanges session.shell) := by
      rw [sends.run]
      exact sends.exchanges
    rw [exchanges, List.flatMap_append, ← List.append_assoc, ← sent]
    rfl

theorem establish_ssh {t : Target} (transport : t.transport = .ssh) {s : Surroundings}
    {answer : Attempt Unit} {c : Ssh.Connection} {w : Ssh.Wire}
    (h : Ssh.Connection.connect {} s.station t s.ssh = ((answer, c), w)) :
    establish t s = (answer.map fun _ => .ssh c, { s with ssh := w }) := by
  simp only [establish, transport, new, connect, Surroundings.onSsh, bind, StateT.bind,
    Surroundings.get_eq, h]
  cases answer with
  | error | ok => rfl

theorem establish_winRm {t : Target} (transport : t.transport = .winRm) {s : Surroundings}
    {answer : Attempt Unit} {c : WinRm.Connection} {w : WinRm.Wire}
    (h : WinRm.Connection.connect {} s.station t s.winRm = ((answer, c), w)) :
    establish t s = (answer.map fun _ => .winRm c, { s with winRm := w }) := by
  simp only [establish, transport, new, connect, Surroundings.onWinRm, bind, StateT.bind,
    Surroundings.get_eq, h]
  cases answer with
  | error | ok => rfl

/-- Disconnecting behind commands closes an SSH session. -/
theorem Runs.closed_ssh {t : Target} (transport : t.transport = .ssh) {s s₂ : Surroundings}
    {w : Ssh.Wire} (attempts : s.ssh.Records (·.isAttempt) w) {session : Ssh.Session}
    {commands : List Command}
    (h : (Connection.ssh ⟨.connected, some session, t.address⟩).Runs { s with ssh := w } commands
      s₂) :
    ∃ c s₃, (Connection.ssh ⟨.connected, some session, t.address⟩).disconnect s₂ =
      ((.ok (), c), s₃) ∧ s.OpenedAndClosed t s₃ := by
  obtain ⟨other, ran⟩ := h.onSsh
  obtain ⟨failure, w', run, closing⟩ := Ssh.Connection.disconnect_asks session t.address s₂.ssh
  have quiet (e : Ssh.Event) (attempt : e.isAttempt = true) : e.isClosing = false := by
    cases e with
    | dial | login | pause => rfl
    | opening | exec | closing => cases attempt
  obtain ⟨before, events, once⟩ := (attempts.imp quiet).trans ran
  have events' : w'.events = s.ssh.events ++ (before ++ [.closing failure]) := by
    rw [closing, events, List.append_assoc]
  refine ⟨.ssh ⟨.disconnected, none, t.address⟩, { s₂ with ssh := w' }, ?_,
    .ssh transport other events' once⟩
  simp only [disconnect, Surroundings.onSsh, bind, StateT.bind, run]
  rfl

/-- Disconnecting behind commands deletes the shell of a WinRM session. -/
theorem Runs.closed_winRm {t : Target} (transport : t.transport = .winRm) {s s₂ : Surroundings}
    {w : WinRm.Wire} {creates : List WinRm.Turn} {shell : String}
    (opening : WinRm.Opening t.endpoint creates (.ok shell))
    (exchanges : w.exchanges = s.winRm.exchanges ++ creates.map (⟨t.endpoint, .create, ·⟩))
    {identity : WinRm.Ntlm.Identity} {commands : List Command}
    (h : (Connection.winRm ⟨.connected, some ⟨identity, t.endpoint, shell⟩, t.address⟩).Runs
      { s with winRm := w } commands s₂) :
    ∃ c s₃, (Connection.winRm ⟨.connected, some ⟨identity, t.endpoint, shell⟩,
      t.address⟩).disconnect s₂ = ((.ok (), c), s₃) ∧ s.OpenedAndClosed t s₃ := by
  obtain ⟨other, lines, ran⟩ := h.onWinRm
  let session : WinRm.Session := ⟨identity, t.endpoint, shell⟩
  have live : Link.Phase.hasSession .connected = true := rfl
  obtain ⟨deletion, w', closed⟩ :=
    WinRm.Connection.disconnect_deletes live session t.address s₂.winRm
  let log := WinRm.SessionLog.opened t.endpoint creates shell opening lines (some deletion)
  have exchanges' : w'.exchanges = s.winRm.exchanges ++ log.exchanges := by
    rw [closed.exchanges, ran, exchanges]
    simp only [log, WinRm.SessionLog.exchanges, Option.toList_some, List.map_singleton,
      List.append_assoc]
    rfl
  have once : WinRm.deletions log.exchanges = [shell] :=
    WinRm.SessionLog.deletions_opened _ _ _ opening lines (some deletion)
  refine ⟨.winRm ⟨.disconnected, none, t.address⟩, { s₂ with winRm := w' }, ?_,
    .winRm transport other opening lines deletion rfl exchanges' once List.getLast?_concat⟩
  simp only [disconnect, Surroundings.onWinRm, bind, StateT.bind]
  rw [closed.run]
  rfl

/-- **A visit attempts only, or is closed.** Where connecting fails nothing but attempts was sent;
where it succeeds, disconnecting behind any commands closes the session that was opened. -/
theorem establish_cases (t : Target) (s : Surroundings) :
    (∃ fault s', establish t s = (.error fault, s') ∧ s.OnlyAttempts t s') ∨
      ∃ c s₁, establish t s = (.ok c, s₁) ∧ ∀ commands s₂, c.Runs s₁ commands s₂ →
        ∃ c' s₃, c.disconnect s₂ = ((.ok (), c'), s₃) ∧ s.OpenedAndClosed t s₃ := by
  cases transport : t.transport with
  | ssh =>
    have attempts := Ssh.Connection.records_connect {} s.station t s.ssh
    obtain ⟨w, ⟨fault, connected⟩ | ⟨session, connected⟩⟩ :=
      Ssh.Connection.connect_apart (c := {}) rfl s.station t s.ssh
    · rw [connected] at attempts
      exact .inl ⟨fault, _, establish_ssh transport connected, .ssh transport rfl attempts⟩
    · rw [connected] at attempts
      refine .inr ⟨_, _, establish_ssh transport connected, ?_⟩
      intro commands s₂ runs
      exact runs.closed_ssh transport attempts
  | winRm =>
    rcases WinRm.Connection.connect_course (c := {}) rfl s.station t s.winRm with
      ⟨fault, h⟩ | ⟨creates, fault, w, _, h⟩ | ⟨creates, shell, identity, w, opening, h⟩
    · have none : s.winRm.exchanges =
          s.winRm.exchanges ++ [].map (⟨t.endpoint, .create, ·⟩) := h.exchanges
      exact .inl ⟨fault, _, establish_winRm transport h.run, .winRm transport rfl none⟩
    · exact .inl ⟨fault, _, establish_winRm transport h.run, .winRm transport rfl h.exchanges⟩
    · refine .inr ⟨_, _, establish_winRm transport h.run, ?_⟩
      intro commands s₂ runs
      exact runs.closed_winRm transport opening h.exchanges

end Connection

end Hostlink
