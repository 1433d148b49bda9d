import Hostlink.Proofs.Verdict

/-!
# The lifecycle of a connection

A connection keeps its phase, its session and its host apart, and changes them one after another. A
`Lifecycle` is what there can be of them: no session, or a session that takes commands, or one that
refuses them. Phases that disagree with the session cannot be told in it, and neither can a shell
without a name.

`Lifecycle.Step` is the machine of three states, with what each call answers. `take_step` is that a
call on a connection is such a step, whatever it meets outside; so whatever was done before, a
connection is that of a lifecycle, and the next call is a step of it. Some calls send nothing, which
depends on the state alone: `Lifecycle.IsQuiet`.
-/

namespace Hostlink

/-! ## The three states -/

/-- What a connection keeps from connect to disconnect. A shell has a name without blanks around
it. -/
inductive Held : Transport → Type where
  | ssh (session : Ssh.Session) : Held .ssh
  | winRm (session : WinRm.Session) (named : session.shell ≠ "")
      (trimmed : Text.trim session.shell = session.shell) : Held .winRm

/-- **The states of a connection**, with the host last connected to. -/
inductive Lifecycle (transport : Transport) where
  | disconnected (host : String)
  | connected (held : Held transport) (host : String)
  | suspended (held : Held transport) (host : String)

/-- The connection that keeps what is held, in a phase. -/
def Held.connection (phase : Link.Phase) (host : String) {transport : Transport} :
    Held transport → Connection
  | .ssh session => .ssh ⟨phase, some session, host⟩
  | .winRm session _ _ => .winRm ⟨phase, some session, host⟩

/-- A connection without a session. -/
def Connection.apart (host : String) : Transport → Connection
  | .ssh => .ssh ⟨.disconnected, none, host⟩
  | .winRm => .winRm ⟨.disconnected, none, host⟩

namespace Lifecycle

variable {transport : Transport}

/-- The connection in a state. -/
def connection : Lifecycle transport → Connection
  | .disconnected host => .apart host transport
  | .connected held host => held.connection .connected host
  | .suspended held host => held.connection .suspended host

def phase : Lifecycle transport → Link.Phase
  | .disconnected _ => .disconnected
  | .connected .. => .connected
  | .suspended .. => .suspended

def host : Lifecycle transport → String
  | .disconnected host | .connected _ host | .suspended _ host => host

def held? : Lifecycle transport → Option (Held transport)
  | .disconnected _ => none
  | .connected held _ | .suspended held _ => some held

end Lifecycle

/-! ## Calls -/

/-- A call on a connection. -/
inductive Call where
  | connect (t : Target)
  | disconnect
  | move (m : Link.Move)
  | run (command : Command)

/-- What a call answers; only a command has an outcome. -/
abbrev Reply := Attempt (Option Outcome)

namespace Connection

/-- Takes a call. -/
def take (c : Connection) : Call → StateM Surroundings (Reply × Connection)
  | .connect t => do
    let (answer, c) ← c.connect t
    return (answer.map fun _ => none, c)
  | .disconnect => do
    let (answer, c) ← c.disconnect
    return (answer.map fun _ => none, c)
  | .move m => do
    let (answer, c) := c.move m
    return (answer.map fun _ => none, c)
  | .run command => do
    let answer ← c.run command
    return (answer.map some, c)

/-- The connection after calls, each of which meets surroundings of its own. -/
def afterAll (c : Connection) : List (Call × Surroundings) → Connection
  | [] => c
  | (call, s) :: rest => (c.take call s).1.2.afterAll rest

/-- Whether a session is stored. -/
def isStored : Connection → Bool
  | .ssh c => c.session.isSome
  | .winRm c => c.session.isSome

end Connection

namespace Lifecycle

variable {transport : Transport}

/-- The state that a move of what is held leads to. -/
def moved (held : Held transport) (host : String) : Link.Move → Lifecycle transport
  | .suspend => .suspended held host
  | .restore => .connected held host

/-- **The machine of three states**, with what each call answers. -/
inductive Step : Lifecycle transport → Call → Reply → Lifecycle transport → Prop
  /-- A connect that succeeds brings a session, and the host with it. -/
  | connects {host : String} {t : Target} (held : Held transport) :
      Step (.disconnected host) (.connect t) (.ok none) (.connected held t.address)
  /-- A connect that fails changes nothing. -/
  | fails {host : String} {t : Target} {fault : LinkFault} :
      Step (.disconnected host) (.connect t) (.error fault) (.disconnected host)
  /-- Neither does one that finds a session. -/
  | keeps {l : Lifecycle transport} {t : Target} (present : l.held?.isSome) :
      Step l (.connect t) (.ok none) l
  | disconnects {l : Lifecycle transport} : Step l .disconnect (.ok none) (.disconnected l.host)
  /-- A move needs a session, and keeps it. -/
  | moves {l : Lifecycle transport} {held : Held transport} {m : Link.Move}
      (present : l.held? = some held) : Step l (.move m) (.ok none) (moved held l.host m)
  | refuses {host : String} {m : Link.Move} :
      Step (.disconnected host) (.move m) (.error (.invalidMove m .disconnected))
        (.disconnected host)
  /-- A command is declined where no session takes it. -/
  | declines {l : Lifecycle transport} {command : Command} (unready : l.phase ≠ .connected) :
      Step l (.run command) (.error .notConnected) l
  /-- Whatever else a command comes to, it changes nothing. -/
  | runs {held : Held transport} {host : String} {command : Command} {reply : Reply}
      (taken : reply ≠ .error .notConnected) :
      Step (.connected held host) (.run command) reply (.connected held host)

/-- **A call that sends nothing** in a state. -/
inductive IsQuiet : Lifecycle transport → Call → Prop
  | connect {l : Lifecycle transport} {t : Target} (present : l.held?.isSome) :
      IsQuiet l (.connect t)
  | disconnect {host : String} : IsQuiet (.disconnected host) .disconnect
  | move {l : Lifecycle transport} {m : Link.Move} : IsQuiet l (.move m)
  | run {l : Lifecycle transport} {command : Command} (unready : l.phase ≠ .connected) :
      IsQuiet l (.run command)

end Lifecycle

/-! ## Calls on either transport -/

/-- The shell that a reply names has a name, without blanks around it. -/
theorem WinRm.named_of_shellId {reply shell : String} (h : shellId reply = .ok shell) :
    shell ≠ "" ∧ Text.trim shell = shell := by
  unfold shellId at h
  dsimp only at h
  split at h
  next id _ =>
    split at h
    next => cases h
    next present =>
      cases h
      constructor
      · intro empty
        have none := congrArg String.toList empty
        rw [String.toList_ofList] at none
        rw [none] at present
        exact present rfl
      · rw [Text.trim, String.toList_ofList, Text.trimChars_trimChars]
  next => cases h

theorem WinRm.named_of_opening {endpoint : String} {creates : List Turn} {shell : String}
    (h : Opening endpoint creates (.ok shell)) : shell ≠ "" ∧ Text.trim shell = shell := by
  generalize brought : Except.ok shell = outcome at h
  induction h with
  | @last turn outcome created =>
    rw [← brought] at created
    unfold Turn.createdShell at created
    split at created
    next => cases created
    next => exact named_of_shellId created
  | again _ _ _ ih => exact ih brought

/-- A connect without a session fails, or brings one. -/
theorem Ssh.Connection.connect_apart {c : Connection} (apart : c.phase.hasSession = false)
    (station : Station) (t : Target) (w : Wire) :
    ∃ w', (∃ fault, c.connect station t w = ((.error fault, c), w')) ∨
      ∃ session, c.connect station t w = ((.ok (), ⟨.connected, some session, t.address⟩), w') := by
  simp only [connect, apart, Bool.false_eq_true, if_false]
  cases Login.ofTarget station t with
  | error fault => exact ⟨w, .inl ⟨fault, rfl⟩⟩
  | ok login =>
    simp only [bind, StateT.bind]
    rcases Link.retry (Wire.pause t.pause.toNat) (establish t.socketAddress login) t.retryAttempts w
      with ⟨outcome, w'⟩
    cases outcome with
    | error fault => exact ⟨w', .inl ⟨fault, rfl⟩⟩
    | ok session => exact ⟨w', .inr ⟨session, rfl⟩⟩

theorem WinRm.Connection.connect_apart {c : Connection} (apart : c.phase.hasSession = false)
    (station : Station) (t : Target) (w : Wire) :
    ∃ w', (∃ fault, c.connect station t w = ((.error fault, c), w')) ∨
      ∃ session : Session, session.shell ≠ "" ∧ Text.trim session.shell = session.shell ∧
        c.connect station t w = ((.ok (), ⟨.connected, some session, t.address⟩), w') := by
  rcases connect_course apart station t w with
    ⟨fault, h⟩ | ⟨creates, fault, w', _, h⟩ | ⟨creates, shell, identity, w', opening, h⟩
  · exact ⟨w, .inl ⟨fault, h.run⟩⟩
  · exact ⟨w', .inl ⟨fault, h.run⟩⟩
  · obtain ⟨named, trimmed⟩ := named_of_opening opening
    exact ⟨w', .inr ⟨⟨identity, t.endpoint, shell⟩, named, trimmed, h.run⟩⟩

theorem Surroundings.pure_eq {α : Type} (a : α) (s : Surroundings) :
    (pure a : StateM Surroundings α) s = (a, s) := rfl

theorem Surroundings.get_eq (s : Surroundings) :
    (get : StateM Surroundings Surroundings) s = (s, s) := rfl

theorem Connection.take_connect_ssh {c c' : Ssh.Connection} {t : Target} {s : Surroundings}
    {answer : Attempt Unit} {w : Ssh.Wire} (h : c.connect s.station t s.ssh = ((answer, c'), w)) :
    (Connection.ssh c).take (.connect t) s =
      ((answer.map fun _ => none, .ssh c'), { s with ssh := w }) := by
  simp only [take, connect, Surroundings.onSsh, bind, StateT.bind, Surroundings.get_eq,
    Surroundings.pure_eq, h]

theorem Connection.take_connect_winRm {c c' : WinRm.Connection} {t : Target} {s : Surroundings}
    {answer : Attempt Unit} {w : WinRm.Wire}
    (h : c.connect s.station t s.winRm = ((answer, c'), w)) :
    (Connection.winRm c).take (.connect t) s =
      ((answer.map fun _ => none, .winRm c'), { s with winRm := w }) := by
  simp only [take, connect, Surroundings.onWinRm, bind, StateT.bind, Surroundings.get_eq,
    Surroundings.pure_eq, h]

namespace Lifecycle

variable {transport : Transport}

/-- A connect without a session is a step. -/
theorem connect_step (host : String) (t : Target) (s : Surroundings) :
    ∃ reply s', ∃ l' : Lifecycle transport,
      (Connection.apart host transport).take (.connect t) s = ((reply, l'.connection), s') ∧
      Step (.disconnected host) (.connect t) reply l' := by
  cases transport with
  | ssh =>
    have apart : Link.Phase.hasSession .disconnected = false := rfl
    obtain ⟨w', ⟨fault, run⟩ | ⟨session, run⟩⟩ :=
      Ssh.Connection.connect_apart (c := ⟨.disconnected, none, host⟩) apart s.station t s.ssh
    · exact ⟨_, _, .disconnected host, Connection.take_connect_ssh run, .fails⟩
    · exact ⟨_, _, .connected (.ssh session) t.address, Connection.take_connect_ssh run, .connects _⟩
  | winRm =>
    have apart : Link.Phase.hasSession .disconnected = false := rfl
    obtain ⟨w', ⟨fault, run⟩ | ⟨session, named, trimmed, run⟩⟩ :=
      WinRm.Connection.connect_apart (c := ⟨.disconnected, none, host⟩) apart s.station t s.winRm
    · exact ⟨_, _, .disconnected host, Connection.take_connect_winRm run, .fails⟩
    · exact ⟨_, _, .connected (.winRm session named trimmed) t.address,
        Connection.take_connect_winRm run, .connects _⟩

/-- A session takes commands exactly in the connected state: there is always one then. -/
theorem ready_iff (l : Lifecycle transport) : l.connection.Ready ↔ l.phase = .connected := by
  cases l with
  | disconnected host =>
    refine iff_of_false ?_ ?_
    · cases transport with
      | ssh | winRm =>
        rintro ⟨⟨⟩, _⟩
    · rintro ⟨⟩
  | connected held host => cases held with
    | ssh | winRm => exact iff_of_true ⟨rfl, rfl⟩ rfl
  | suspended held host =>
    refine iff_of_false ?_ ?_
    · cases held with
      | ssh | winRm =>
        rintro ⟨⟨⟩, _⟩
    · rintro ⟨⟩

/-- A command is a step, and where no session takes it nothing is sent. -/
theorem run_step (l : Lifecycle transport) (command : Command) (s : Surroundings) :
    ∃ reply s', l.connection.take (.run command) s = ((reply, l.connection), s') ∧
      Step l (.run command) reply l ∧
      (l.phase ≠ .connected → s'.ssh = s.ssh ∧ s'.winRm = s.winRm) := by
  refine ⟨(l.connection.run command s).1.map some, (l.connection.run command s).2, rfl, ?_⟩
  rcases l.connection.run_verdict command s with ⟨unready, refused, quiet⟩ | ⟨ready, judged⟩
  · rw [refused]
    exact ⟨.declines (mt l.ready_iff.mpr unready), fun _ => quiet⟩
  · have phase := l.ready_iff.mp ready
    refine ⟨?_, fun unready => absurd phase unready⟩
    cases l with
    | disconnected | suspended => cases phase
    | connected held host =>
      refine .runs fun refused => ?_
      -- no fault of a command that was taken is the one that declines it
      rcases came : (Lifecycle.connected held host).connection.run command s with ⟨answer, s'⟩
      rw [came] at refused judged
      cases answer with
      | ok o => cases refused
      | error fault =>
        cases refused
        cases judged _ rfl with
        | broken h => cases h

/-- **A call on a connection is a step of its lifecycle.** -/
theorem take_step (l : Lifecycle transport) (call : Call) (s : Surroundings) :
    ∃ reply s', ∃ l' : Lifecycle transport,
      l.connection.take call s = ((reply, l'.connection), s') ∧ Step l call reply l' ∧
      (IsQuiet l call → s'.ssh = s.ssh ∧ s'.winRm = s.winRm) := by
  cases call with
  | connect t =>
    cases l with
    | disconnected host =>
      obtain ⟨reply, s', l', run, step⟩ := connect_step host t s
      refine ⟨reply, s', l', run, step, fun h => ?_⟩
      cases h with
      | connect present => cases present
    | connected held host | suspended held host =>
      refine ⟨.ok none, s, _, ?_, .keeps rfl, fun _ => ⟨rfl, rfl⟩⟩
      cases held <;> rfl
  | disconnect =>
    cases l with
    | disconnected host =>
      refine ⟨.ok none, s, .disconnected host, ?_, .disconnects, fun _ => ⟨rfl, rfl⟩⟩
      cases transport <;> rfl
    | connected held host | suspended held host =>
      cases held with
      | ssh session =>
        refine ⟨.ok none, _, .disconnected host, rfl, .disconnects, ?_⟩
        rintro ⟨⟩
      | winRm session =>
        refine ⟨.ok none, _, .disconnected host, rfl, .disconnects, ?_⟩
        rintro ⟨⟩
  | move m =>
    cases l with
    | disconnected host =>
      refine ⟨_, s, .disconnected host, ?_, .refuses, fun _ => ⟨rfl, rfl⟩⟩
      cases transport <;> rfl
    | connected held host | suspended held host =>
      refine ⟨.ok none, s, moved held host m, ?_, .moves rfl, fun _ => ⟨rfl, rfl⟩⟩
      cases held <;> cases m <;> rfl
  | run command =>
    obtain ⟨reply, s', run, step, quiet⟩ := l.run_step command s
    refine ⟨reply, s', l, run, step, fun h => ?_⟩
    cases h with
    | run unready => exact quiet unready

/-- A session is stored in the connected and in the suspended state, and only then. -/
theorem isStored_iff (l : Lifecycle transport) :
    l.connection.isStored = true ↔
      l.connection.phase = .connected ∨ l.connection.phase = .suspended := by
  cases l with
  | disconnected host =>
    cases transport with
    | ssh | winRm =>
      refine iff_of_false Bool.false_ne_true ?_
      rintro (h | h)
      · cases h
      · cases h
  | connected held host =>
    cases held with
    | ssh | winRm => exact iff_of_true rfl (.inl rfl)
  | suspended held host =>
    cases held with
    | ssh | winRm => exact iff_of_true rfl (.inr rfl)

/-- Calls lead from states to states. By induction on the calls. -/
theorem afterAll_connection (l : Lifecycle transport) (calls : List (Call × Surroundings)) :
    ∃ l' : Lifecycle transport, l.connection.afterAll calls = l'.connection := by
  induction calls generalizing l with
  | nil => exact ⟨l, rfl⟩
  | cons next calls ih =>
    obtain ⟨call, s⟩ := next
    obtain ⟨reply, s', l₁, run, _⟩ := l.take_step call s
    obtain ⟨l', after⟩ := ih l₁
    refine ⟨l', ?_⟩
    rw [Connection.afterAll, run]
    exact after

end Lifecycle

/-- **Either transport refines the machine of three states.** Whatever calls were made on a new
connection, and whatever each of them met outside, the connection is in a state of the machine, which
stores a session exactly while it is connected or suspended; and every call that comes next is a step
of the machine, which sends nothing where it is quiet. -/
theorem lifecycle_refined (transport : Transport) (calls : List (Call × Surroundings)) :
    ∃ l : Lifecycle transport, (Connection.new transport).afterAll calls = l.connection ∧
      (l.connection.isStored = true ↔
        l.connection.phase = .connected ∨ l.connection.phase = .suspended) ∧
      ∀ (call : Call) (s : Surroundings), ∃ reply s', ∃ l' : Lifecycle transport,
        l.connection.take call s = ((reply, l'.connection), s') ∧ l.Step call reply l' ∧
        (l.IsQuiet call → s'.ssh = s.ssh ∧ s'.winRm = s.winRm) := by
  let start : Lifecycle transport := .disconnected ""
  have new : Connection.new transport = start.connection := by
    cases transport <;> rfl
  obtain ⟨l, after⟩ := start.afterAll_connection calls
  exact ⟨l, new ▸ after, l.isStored_iff, l.take_step⟩

end Hostlink
