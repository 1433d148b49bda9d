import Hostlink.Cli.Run
import Hostlink.Proofs.Connector.Commands
import Hostlink.Readers

/-!
# The course of a run

A run whose command line is understood takes one of three courses. Where the target or the script
cannot be read, it changes nothing outside. Where connecting fails, it has made attempts to connect
and nothing else. Otherwise it acts over the connection, which is commands in a row, disconnects
once, and has then closed what it opened, whatever the act came to.

An ending is what is printed and the status to exit with. It stands at the end of a course, where
nothing more is sent, and `Ending.Tells` ties it to the outcome: zero and a result for a success,
one and the failure for a failure.
-/

namespace Hostlink.Cli

open Connector

/-! ## What an ending tells -/

namespace Ending

/-- **The run failed**: it says so, and prints no result. -/
def Fails (e : Ending) : Prop := e.status = 1 ∧ e.output = "" ∧ e.report.isSome

/-- **What is told of an outcome**: of a success its result and the status zero, and of a failure
how it is worded. -/
def Tells (e : Ending) : Except Failure Unit → Prop
  | .ok () => e.status = 0 ∧ e.output ≠ "" ∧ e.report = none
  | .error f => e.status = 1 ∧ e.output = "" ∧
      ∃ doing, e.report = some (Trouble.render ⟨doing, f.message :: f.sources⟩)

end Ending

/-- How a run ends that yields this. -/
def Invocation.ending (inv : Invocation) : Told String → Ending
  | .error trouble => .failed inv.verbosity trouble
  | .ok text => .finished inv.verbosity text

theorem Invocation.fails_ending (inv : Invocation) (trouble : Trouble) :
    (inv.ending (.error trouble)).Fails := ⟨rfl, rfl, rfl⟩

theorem Invocation.ending_tells_failure (inv : Invocation) (doing : String) (f : Failure) :
    (inv.ending (.error (during doing f))).Tells (.error f) := ⟨rfl, rfl, doing, rfl⟩

theorem Invocation.ending_tells_success (inv : Invocation) (text : String) :
    (inv.ending (.ok text)).Tells (.ok ()) := by
  refine ⟨rfl, ?_, rfl⟩
  intro empty
  -- a result ends in a line break, also where it is empty itself
  have chars := congrArg String.toList empty
  rw [ending, Ending.output, String.toList_append] at chars
  exact absurd chars (List.append_ne_nil_of_right_ne_nil _ (by decide))

/-! ## The three courses -/

/-- **All that is read here can be read**: the target, and the script of an installation. -/
structure Invocation.Loads (inv : Invocation) (station : Station) (t : Target) : Prop where
  target : ∃ path, inv.target = some path ∧ Target.ofFile station path = .ok t
  script : ∀ os path poll, inv.action = .install os path poll →
    ∃ text, station.readText path = .ok text

/-- **What an invocation does over a connection** to its target, and what that comes to. -/
inductive Invocation.Acts (inv : Invocation) (station : Station) (t : Target) (c : Connection)
    (s : Surroundings) : Except Failure Unit → Surroundings → Prop
  | exec {command : Command} (asked : inv.action = .exec command) {answer : Attempt Outcome}
      {s' : Surroundings} (run : c.run command s = (answer, s')) :
      Acts inv station t c s ((answer.mapError .link).map fun _ => ()) s'
  | install {os : Option Os} {path : String} {poll : PollPolicy}
      (asked : inv.action = .install os path poll) {script : String}
      (read : station.readText path = .ok script) {answer : Managed String} {s' : Surroundings}
      (run : (hostOf (osFor os t) poll c).install script s = (answer, s')) :
      Acts inv station t c s ((answer.mapError .connector).map fun _ => ()) s'
  | uninstall {os : Option Os} (asked : inv.action = .uninstall os) {answer : Managed Unit}
      {s' : Surroundings} (run : (hostOf (osFor os t) {} c).uninstall s = (answer, s')) :
      Acts inv station t c s ((answer.mapError .connector).map fun _ => ()) s'

/-- **The course of a run**, with how it ends and what it leaves outside. -/
inductive Course (inv : Invocation) (s : Surroundings) : Ending → Surroundings → Prop
  /-- What is to be read here cannot be read. Nothing is sent. -/
  | unread {e : Ending} (missing : ∀ t, ¬ inv.Loads s.station t) (failed : e.Fails) :
      Course inv s e s
  /-- The target cannot be connected to. No command is run. -/
  | unconnected {t : Target} {fault : LinkFault} {s' : Surroundings} {e : Ending}
      (loads : inv.Loads s.station t) (connect : Connection.establish t s = (.error fault, s'))
      (attempts : s.OnlyAttempts t s') (told : e.Tells (.error (.link fault))) : Course inv s e s'
  /-- The act takes its course, and behind the last of its commands the connection is
  disconnected. -/
  | closed {t : Target} {c c' : Connection} {s₁ s₂ s₃ : Surroundings}
      {outcome : Except Failure Unit} {commands : List Command} {e : Ending}
      (loads : inv.Loads s.station t) (connect : Connection.establish t s = (.ok c, s₁))
      (acts : inv.Acts s.station t c s₁ outcome s₂) (runs : c.Runs s₁ commands s₂)
      (disconnect : c.disconnect s₂ = ((.ok (), c'), s₃)) (closed : s.OpenedAndClosed t s₃)
      (told : e.Tells outcome) : Course inv s e s₃

/-! ## Acting on a target -/

theorem loadTarget_eq_ok_iff {station : Station} {target : Option String} {t : Target} :
    loadTarget station target = .ok t ↔
      ∃ path, target = some path ∧ Target.ofFile station path = .ok t := by
  cases target with
  | none =>
    constructor
    · intro h
      cases h
    · rintro ⟨_, ⟨⟩, _⟩
  | some path =>
    simp only [loadTarget, Option.some.injEq, exists_eq_left']
    cases Target.ofFile station path with
    | error fault => simp only [reduceCtorEq]
    | ok t' => simp only [Except.ok.injEq]

/-- What is told of an act on a target, by how its failures and its results are worded. -/
def wording {φ α : Type} (failure : φ → Failure) (doing : Target → String)
    (result : Target → α → String) : Told (Target × Except φ α) → Told String
  | .error trouble => .error trouble
  | .ok (t, .error fault) => .error (during (doing t) (failure fault))
  | .ok (t, .ok a) => .ok (result t a)

section Act

variable {φ α β : Type} {inv : Invocation} {s s₁ s₂ s₃ : Surroundings} {target : Option String}
  {t : Target}

theorem withTarget_of_unloaded {act : Target → Connection → StateM Surroundings β}
    {trouble : Trouble} (loaded : loadTarget s.station target = .error trouble) :
    withTarget target act s = (.error trouble, s) := by
  simp only [withTarget, bind, StateT.bind, Surroundings.get_eq, loaded]
  rfl

theorem withTarget_of_unconnected {act : Target → Connection → StateM Surroundings β}
    {fault : LinkFault} (loaded : loadTarget s.station target = .ok t)
    (connect : Connection.establish t s = (.error fault, s₁)) :
    withTarget target act s =
      (.error (during s!"connecting to {t.socketAddress} over {t.transport.label}" (.link fault)),
        s₁) := by
  simp only [withTarget, bind, StateT.bind, Surroundings.get_eq, loaded, connect]
  rfl

theorem withTarget_of_connected {act : Target → Connection → StateM Surroundings β}
    {c c' : Connection} {b : β} {closed : Attempt Unit}
    (loaded : loadTarget s.station target = .ok t)
    (connect : Connection.establish t s = (.ok c, s₁)) (took : act t c s₁ = (b, s₂))
    (disconnect : c.disconnect s₂ = ((closed, c'), s₃)) :
    withTarget target act s = (.ok (t, b), s₃) := by
  simp only [withTarget, bind, StateT.bind, Surroundings.get_eq, loaded, connect, took, disconnect]
  rfl

/-- **An act that only runs commands takes a course** on the target of an invocation. -/
theorem course_of_act {act : Target → Connection → StateM Surroundings (Except φ α)}
    {failure : φ → Failure} (doing : Target → String) (result : Target → α → String)
    (script : ∀ os path poll, inv.action = .install os path poll →
      ∃ text, s.station.readText path = .ok text)
    (only : ∀ t (c : Connection), c.OnlyRuns (act t c))
    (acts : ∀ t c s₁ answer s₂, act t c s₁ = (answer, s₂) →
      inv.Acts s.station t c s₁ ((answer.mapError failure).map fun _ => ()) s₂) :
    Course inv s (inv.ending (wording failure doing result (withTarget inv.target act s).1))
      (withTarget inv.target act s).2 := by
  cases loaded : loadTarget s.station inv.target with
  | error trouble =>
    rw [withTarget_of_unloaded loaded]
    refine .unread ?_ (inv.fails_ending trouble)
    intro t loads
    cases loaded.symm.trans (loadTarget_eq_ok_iff.mpr loads.target)
  | ok t =>
    have loads : inv.Loads s.station t := ⟨loadTarget_eq_ok_iff.mp loaded, script⟩
    rcases Connection.establish_cases t s with
      ⟨fault, s', connect, attempts⟩ | ⟨c, s₁, connect, closes⟩
    · rw [withTarget_of_unconnected loaded connect]
      exact .unconnected loads connect attempts (inv.ending_tells_failure _ _)
    · obtain ⟨commands, runs⟩ := only t c s₁
      rcases took : act t c s₁ with ⟨answer, s₂⟩
      rw [took] at runs
      obtain ⟨c', s₃, disconnect, closed⟩ := closes commands s₂ runs
      rw [withTarget_of_connected loaded connect took disconnect]
      refine .closed loads connect (acts t c s₁ answer s₂ took) runs disconnect closed ?_
      cases answer with
      | error fault => exact inv.ending_tells_failure _ _
      | ok a => exact inv.ending_tells_success _

end Act

/-! ## The three actions -/

theorem reachedBy_hostOf (os : Os) (poll : PollPolicy) (c : Connection) :
    (hostOf os poll c).ReachedBy c := ⟨fun _ => rfl, fun _ _ => rfl⟩

section Actions

variable {inv : Invocation} (s : Surroundings)

theorem exec_course {command : Command} (asked : inv.action = .exec command) :
    Course inv s (inv.ending (exec inv command s).1) (exec inv command s).2 := by
  let act (_ : Target) (c : Connection) := c.run command
  have worded : exec inv command s =
      (wording .link (fun t => s!"running command on {t.address}")
        (fun _ o => present inv.format o.encode o.combined) (withTarget inv.target act s).1,
      (withTarget inv.target act s).2) := by
    simp only [exec, bind, StateT.bind, act]
    rcases withTarget inv.target (fun _ c => c.run command) s with ⟨trouble | ⟨t, fault | o⟩, s'⟩
    all_goals rfl
  rw [worded]
  apply course_of_act
  · intro os path poll other
    cases asked.symm.trans other
  · intro t c
    exact .run c command
  · intro t c s₁ answer s₂ run
    exact .exec asked run

theorem uninstall_course {os : Option Os} (asked : inv.action = .uninstall os) :
    Course inv s (inv.ending (uninstall inv os s).1) (uninstall inv os s).2 := by
  let act (t : Target) (c : Connection) := (hostOf (osFor os t) {} c).uninstall
  let report (t : Target) : Value := .record [
    ("host", .text t.address), ("os", .text (osFor os t).name), ("removed", .bool true)]
  have worded : uninstall inv os s =
      (wording .connector (fun t => s!"removing connector from {t.address}")
        (fun t _ => present inv.format (report t)
          s!"Connector removed from {t.address} ({(osFor os t).name})")
        (withTarget inv.target act s).1,
      (withTarget inv.target act s).2) := by
    simp only [uninstall, bind, StateT.bind]
    rcases withTarget inv.target act s with ⟨trouble | ⟨t, fault | _⟩, s'⟩
    all_goals rfl
  rw [worded]
  apply course_of_act
  · intro os path poll other
    cases asked.symm.trans other
  · intro t c
    exact Host.onlyRuns_uninstall (reachedBy_hostOf _ _ c)
  · intro t c s₁ answer s₂ run
    exact .uninstall asked run

theorem install_course {os : Option Os} {path : String} {poll : PollPolicy}
    (asked : inv.action = .install os path poll) :
    Course inv s (inv.ending (install inv os path poll s).1) (install inv os path poll s).2 := by
  cases read : s.station.readText path with
  | error cause =>
    have unread : install inv os path poll s =
        (.error ⟨(Failure.fileUnreadable path cause).message,
          (Failure.fileUnreadable path cause).sources⟩, s) := by
      simp only [install, bind, StateT.bind, Surroundings.get_eq, read]
      rfl
    rw [unread]
    refine .unread ?_ (inv.fails_ending _)
    intro t loads
    obtain ⟨text, readable⟩ := loads.script os path poll asked
    cases read.symm.trans readable
  | ok script =>
    let act (t : Target) (c : Connection) := (hostOf (osFor os t) poll c).install script
    let report (t : Target) (id : String) : Value := .record [
      ("host", .text t.address), ("os", .text (osFor os t).name), ("connector_id", .text id)]
    have worded : install inv os path poll s =
        (wording .connector (fun t => s!"installing connector on {t.address}")
          (fun t id => present inv.format (report t id)
            s!"Connector installed on {t.address} ({(osFor os t).name}): {id}")
          (withTarget inv.target act s).1,
        (withTarget inv.target act s).2) := by
      simp only [install, bind, StateT.bind, Surroundings.get_eq, read]
      rcases withTarget inv.target act s with ⟨trouble | ⟨t, fault | id⟩, s'⟩
      all_goals rfl
    rw [worded]
    apply course_of_act
    · intro os' path' poll' same
      cases asked.symm.trans same
      exact ⟨script, read⟩
    · intro t c
      exact Host.onlyRuns_install (reachedBy_hostOf _ _ c) script
    · intro t c s₁ answer s₂ run
      exact .install asked read run

end Actions

/-- A command line that asks for one command. -/
def sampleArgs : List String := ["--target", "win.toml", "exec", "whoami"]

def Invocation.sample : Invocation := ⟨some "win.toml", 0, .human, .exec { text := "whoami" }⟩

/-- A machine that has the description of a target, and a target that brings a shell and carries out
one line in it. -/
def sampleSurroundings : Surroundings where
  station := .plain "desk" fun _ => .ok (Utf8.encode
    ("address = 'win'\nconnection_type = 'winrm'\n" ++
      "credentials = \x7b username = 'ada', password = 's3cret' \x7d"))
  ssh := .unreachable Surroundings.noNetwork
  winRm := {
    turns := .answering 200 "<rsp:ShellId>S1</rsp:ShellId>" :: WinRm.Turn.carryingOut "C1"
    ending := .silent }
  scriptId := toString

/-- The request to delete the shell is answered with an error, and the run succeeds all the same. -/
example :
    let done := run none sampleArgs sampleSurroundings
    done.1.status = 0 ∧ WinRm.deletions done.2.winRm.exchanges = ["S1"] := by
  decide +kernel

end Hostlink.Cli
