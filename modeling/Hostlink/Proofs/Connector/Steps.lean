import Hostlink.Connector.Lifecycle
import Hostlink.Proofs.Verdict
import Hostlink.Readers

/-!
# What the steps of a connector pass over

Removing a connector and waiting for one are steps one after another, and either goes on behind a
step that failed. `Removal` and `Waiting` say which steps are taken, what each of them answered and
what the whole comes to, for any machine whatever it does. What they have in common is `Stops`: a
step that did not run is the last one, and its fault is the answer.

What a step is that did run is not for these loops to say: they look at one kind of fault. It is the
verdicts of the transports that make it the target's word, `steps_heed_transport`.
-/

namespace Hostlink.Connector

/-- **The command ran**: it succeeded, or it returned a code that was not expected. -/
inductive Ran : Attempt Outcome → Prop
  | succeeded (o : Outcome) : Ran (.ok o)
  | returned (text : String) (code : Int32) (stderr : String) :
      Ran (.error (.commandFailed text code stderr))

/-- A step that was taken. -/
structure Trial (σ : Type) where
  operation : Operation
  before : σ
  answer : Attempt Outcome
  after : σ

namespace Host

variable {σ : Type}

/-- **A step is taken as it is told.** -/
def Takes (h : Host σ) (t : Trial σ) : Prop :=
  h.run { text := h.os.command t.operation } t.before = (t.answer, t.after)

/-- **A removal**: steps one after another, up to the first that did not run. With the steps that
were taken, what the removal comes to and what it leaves. -/
inductive Removal (h : Host σ) : List Operation → σ → List (Trial σ) → Managed Unit → σ → Prop
  | done {s : σ} : Removal h [] s [] (.ok ()) s
  | passed {rest : List Operation} {t : Trial σ} {trials : List (Trial σ)} {result : Managed Unit}
      {final : σ} (taken : h.Takes t) (ran : Ran t.answer)
      (tail : Removal h rest t.after trials result final) :
      Removal h (t.operation :: rest) t.before (t :: trials) result final
  | stopped {rest : List Operation} {t : Trial σ} {fault : LinkFault} (taken : h.Takes t)
      (failed : t.answer = .error fault) (other : ¬ Ran t.answer) :
      Removal h (t.operation :: rest) t.before [t] (.error (.link fault)) t.after

/-- **A wait**: polls one after another, up to the first that succeeds, the first that did not run,
or the last there may be. With the polls that went before, and those that may come. -/
inductive Waiting (h : Host σ) : Nat → Nat → σ → List (Trial σ) → Managed Unit → σ → Prop
  | active {polled attempts : Nat} {t : Trial σ} {o : Outcome} (asked : t.operation = .checkActive)
      (taken : h.Takes t) (succeeded : t.answer = .ok o) :
      Waiting h polled attempts t.before [t] (.ok ()) t.after
  | stopped {polled attempts : Nat} {t : Trial σ} {fault : LinkFault}
      (asked : t.operation = .checkActive) (taken : h.Takes t) (failed : t.answer = .error fault)
      (other : ¬ Ran t.answer) :
      Waiting h polled attempts t.before [t] (.error (.link fault)) t.after
  | spent {polled attempts : Nat} {t : Trial σ} {text : String} {code : Int32} {stderr : String}
      (asked : t.operation = .checkActive) (taken : h.Takes t)
      (failed : t.answer = .error (.commandFailed text code stderr)) (few : attempts ≤ 1) :
      Waiting h polled attempts t.before [t] (.error (.inactive (polled + 1))) t.after
  | again {polled attempts : Nat} {t : Trial σ} {text : String} {code : Int32} {stderr : String}
      {trials : List (Trial σ)} {result : Managed Unit} {final : σ}
      (asked : t.operation = .checkActive) (taken : h.Takes t)
      (failed : t.answer = .error (.commandFailed text code stderr))
      (tail : Waiting h (polled + 1) (attempts + 1) (h.pause h.poll.tick t.after).2 trials result
        final) :
      Waiting h polled (attempts + 2) t.before (t :: trials) result final

/-- What a command for the connector answers, and what it leaves. -/
theorem perform_eq (h : Host σ) (command : Command) (s : σ) :
    h.perform command s = ((h.run command s).1.mapError .link, (h.run command s).2) := by
  unfold perform
  simp only [bind, StateT.bind]
  rcases h.run command s with ⟨answer, s'⟩
  cases answer with
  | ok | error => rfl

theorem operate_eq (h : Host σ) (o : Operation) (s : σ) :
    h.operate o s = ((h.run { text := h.os.command o } s).1.mapError .link,
      (h.run { text := h.os.command o } s).2) :=
  h.perform_eq { text := h.os.command o } s

/-- **A best effort is a removal.** By induction on the steps to come. -/
theorem bestEffort_removal (h : Host σ) (ops : List Operation) (s : σ) :
    ∃ trials, h.Removal ops s trials (h.bestEffort ops s).1 (h.bestEffort ops s).2 := by
  induction ops generalizing s with
  | nil => exact ⟨[], .done⟩
  | cons o rest ih =>
    rcases run : h.run { text := h.os.command o } s with ⟨answer, s'⟩
    let t : Trial σ := ⟨o, s, answer, s'⟩
    have taken : h.Takes t := run
    obtain ⟨trials, tail⟩ := ih s'
    unfold bestEffort
    simp only [bind, StateT.bind, operate_eq, run]
    cases answer with
    | ok outcome => exact ⟨t :: trials, .passed taken (.succeeded outcome) tail⟩
    | error fault =>
      cases fault with
      | commandFailed text code stderr =>
        exact ⟨t :: trials, .passed taken (.returned text code stderr) tail⟩
      | dialFailed | timedOut | authentication | shellCreation | http | notConnected | invalidMove
      | execution | missingCredentials | certificateUnreadable | keyUnreadable | encoding
      | configuration | ssh | io =>
        refine ⟨[t], .stopped taken rfl ?_⟩
        rintro ⟨⟩

/-- A poll that returned no unexpected code ends the wait, whatever polls are left. -/
theorem awaitActive_of_end (h : Host σ) (polled attempts : Nat) {s s' : σ}
    {answer : Attempt Outcome} (run : h.run { text := h.os.command .checkActive } s = (answer, s'))
    (ended : ∀ text code stderr, answer ≠ .error (.commandFailed text code stderr)) :
    h.awaitActive polled attempts s = ((answer.map fun _ => ()).mapError .link, s') := by
  unfold awaitActive
  split
  all_goals
    simp only [bind, StateT.bind, operate_eq, run]
    cases answer with
    | ok o => rfl
    | error fault =>
      cases fault with
      | commandFailed text code stderr => exact absurd rfl (ended text code stderr)
      | _ => rfl

/-- Such a poll is the whole of a wait. -/
theorem waiting_of_end (h : Host σ) (polled attempts : Nat) {t : Trial σ}
    (asked : t.operation = .checkActive) (taken : h.Takes t)
    (ended : ∀ text code stderr, t.answer ≠ .error (.commandFailed text code stderr)) :
    h.Waiting polled attempts t.before [t] (h.awaitActive polled attempts t.before).1
      (h.awaitActive polled attempts t.before).2 := by
  have run : h.run { text := h.os.command .checkActive } t.before = (t.answer, t.after) :=
    asked ▸ taken
  rw [awaitActive_of_end h polled attempts run ended]
  cases answer : t.answer with
  | ok o => exact .active asked taken answer
  | error fault =>
    refine .stopped asked taken answer fun ran => ?_
    rw [answer] at ran
    cases ran with
    | returned text code stderr => exact ended text code stderr answer

/-- A poll returns a code that was not expected, or it does not. -/
theorem poll_cases (h : Host σ) (s : σ) :
    ∃ t : Trial σ, t.before = s ∧ t.operation = .checkActive ∧ h.Takes t ∧
      ((∃ text code stderr, t.answer = .error (.commandFailed text code stderr) ∧
        h.run { text := h.os.command .checkActive } s =
          (.error (.commandFailed text code stderr), t.after)) ∨
        ∀ text code stderr, t.answer ≠ .error (.commandFailed text code stderr)) := by
  rcases run : h.run { text := h.os.command .checkActive } s with ⟨answer, s'⟩
  refine ⟨⟨.checkActive, s, answer, s'⟩, rfl, rfl, run, ?_⟩
  by_cases returned : ∃ text code stderr, answer = .error (.commandFailed text code stderr)
  · obtain ⟨text, code, stderr, rfl⟩ := returned
    exact .inl ⟨text, code, stderr, rfl, rfl⟩
  · exact .inr fun text code stderr same => returned ⟨text, code, stderr, same⟩

/-- **Polling until the service is active is a wait.** By induction on the polls that may come. -/
theorem awaitActive_waiting (h : Host σ) (polled attempts : Nat) (s : σ) :
    ∃ trials, h.Waiting polled attempts s trials (h.awaitActive polled attempts s).1
      (h.awaitActive polled attempts s).2 := by
  induction attempts generalizing polled s with
  | zero =>
    obtain ⟨t, rfl, asked, taken, ⟨text, code, stderr, failed, run⟩ | ended⟩ := h.poll_cases s
    · simp only [awaitActive, bind, StateT.bind, operate_eq, run]
      exact ⟨[t], .spent asked taken failed (Nat.zero_le 1)⟩
    · exact ⟨[t], waiting_of_end h polled 0 asked taken ended⟩
  | succ attempts ih =>
    obtain ⟨t, rfl, asked, taken, ⟨text, code, stderr, failed, run⟩ | ended⟩ := h.poll_cases s
    · cases attempts with
      | zero =>
        simp only [awaitActive, bind, StateT.bind, operate_eq, run]
        exact ⟨[t], .spent asked taken failed (Nat.le_refl 1)⟩
      | succ attempts =>
        obtain ⟨trials, tail⟩ := ih (polled + 1) (h.pause h.poll.tick t.after).2
        simp only [awaitActive, bind, StateT.bind, operate_eq, run]
        exact ⟨t :: trials, .again asked taken failed tail⟩
    · exact ⟨[t], waiting_of_end h polled _ asked taken ended⟩

end Host

/-! ## What ends the work -/

/-- **A step that did not run ends the work**: it is the last one, its fault is the answer, and
nothing comes after it. -/
def Stops {σ : Type} (trials : List (Trial σ)) (result : Managed Unit) (final : σ) : Prop :=
  ∀ before t after, trials = before ++ t :: after → ∀ fault, t.answer = .error fault →
    ¬ Ran t.answer → after = [] ∧ result = .error (.link fault) ∧ final = t.after

namespace Stops

variable {σ : Type} {trials : List (Trial σ)} {t : Trial σ} {result : Managed Unit} {final : σ}

theorem none : Stops [] result final := by
  intro before t after split
  cases before with
  | nil | cons => cases split

/-- A step that ran stops nothing. -/
theorem cons (ran : Ran t.answer) (h : Stops trials result final) :
    Stops (t :: trials) result final := by
  intro before t' after split fault failed other
  cases before with
  | nil =>
    cases split
    exact absurd ran other
  | cons first before =>
    cases split
    exact h before t' after rfl fault failed other

theorem single {fault : LinkFault} (failed : t.answer = .error fault) :
    Stops [t] (.error (.link fault)) t.after := by
  intro before t' after split fault' failed' _
  cases before with
  | nil =>
    cases split
    cases failed.symm.trans failed'
    exact ⟨rfl, rfl, rfl⟩
  | cons first before =>
    obtain ⟨_, rest⟩ := List.cons.inj split
    exact absurd rest.symm (List.append_ne_nil_of_right_ne_nil _ (List.cons_ne_nil _ _))

end Stops

variable {σ : Type} {h : Host σ}

theorem Host.Removal.stops {ops : List Operation} {s : σ} {trials : List (Trial σ)}
    {result : Managed Unit} {final : σ} (removal : h.Removal ops s trials result final) :
    (∀ t ∈ trials, h.Takes t) ∧ Stops trials result final := by
  induction removal with
  | done => exact ⟨List.forall_mem_nil _, .none⟩
  | passed taken ran _ ih => exact ⟨List.forall_mem_cons.mpr ⟨taken, ih.1⟩, .cons ran ih.2⟩
  | stopped taken failed other =>
    exact ⟨List.forall_mem_singleton.mpr taken, .single failed⟩

theorem Host.Waiting.stops {polled attempts : Nat} {s : σ} {trials : List (Trial σ)}
    {result : Managed Unit} {final : σ} (wait : h.Waiting polled attempts s trials result final) :
    (∀ t ∈ trials, h.Takes t) ∧ Stops trials result final := by
  induction wait with
  | active _ taken succeeded =>
    exact ⟨List.forall_mem_singleton.mpr taken, .cons (succeeded ▸ .succeeded _) .none⟩
  | stopped _ taken failed other => exact ⟨List.forall_mem_singleton.mpr taken, .single failed⟩
  | spent _ taken failed _ =>
    exact ⟨List.forall_mem_singleton.mpr taken, .cons (failed ▸ .returned _ _ _) .none⟩
  | again _ taken failed _ ih =>
    exact ⟨List.forall_mem_cons.mpr ⟨taken, ih.1⟩, .cons (failed ▸ .returned _ _ _) ih.2⟩

/-! ## Over a connection -/

/-- A command that expects zero fails with what is known of how it ended. -/
theorem fault_of_run {c : Connection} {command : Command} (plain : command.expectedCode = 0)
    {s : Surroundings} {fault : LinkFault} (h : (c.run command s).1 = .error fault) :
    (fault.Broken ∨ fault = .notConnected) ∨
      ∃ text code stderr, fault = .commandFailed text code stderr ∧ code ≠ 0 ∧
        s.ReportedCode (c.run command s).2 c.transport code := by
  rcases c.run_verdict command s with ⟨_, refused, _⟩ | ⟨_, judged⟩
  · cases refused.symm.trans h
    exact .inl (.inr rfl)
  · cases judged fault h with
    | broken broken => exact .inl (.inl broken)
    | @returned text stderr code unexpected own =>
      have nonzero := unexpected plain
      exact .inr ⟨text, code, stderr, rfl, nonzero, own nonzero⟩

/-- **The transport is heeded**: a step fails either because of the transport, and then it is the
last one and its fault is the answer, or by a code that the target has reported in it. -/
def Heeded (c : Connection) (trials : List (Trial Surroundings)) (result : Managed Unit)
    (final : Surroundings) : Prop :=
  ∀ before t after, trials = before ++ t :: after → ∀ fault, t.answer = .error fault →
    ((fault.Broken ∨ fault = .notConnected) ∧
      after = [] ∧ result = .error (.link fault) ∧ final = t.after) ∨
    ∃ text code stderr, fault = .commandFailed text code stderr ∧ code ≠ 0 ∧
      t.before.ReportedCode t.after c.transport code

theorem heeded_of_stops {c : Connection} {h : Host Surroundings}
    (onward : ∀ command, h.run command = c.run command) {trials : List (Trial Surroundings)}
    {result : Managed Unit} {final : Surroundings}
    (work : (∀ t ∈ trials, h.Takes t) ∧ Stops trials result final) :
    Heeded c trials result final := by
  obtain ⟨taken, stops⟩ := work
  rintro before t after rfl fault failed
  have run : c.run { text := h.os.command t.operation } t.before = (t.answer, t.after) := by
    rw [← onward]
    exact taken t (List.mem_append_right _ List.mem_cons_self)
  have answer : (c.run { text := h.os.command t.operation } t.before).1 = .error fault := by
    rw [run]
    exact failed
  rcases fault_of_run rfl answer with transport | ⟨text, code, stderr, same, nonzero, own⟩
  · refine .inl ⟨transport, stops before t after rfl fault failed ?_⟩
    rw [failed]
    rintro ⟨⟩
    rcases transport with broken | refused
    · cases broken
    · cases refused
  · rw [run] at own
    exact .inr ⟨text, code, stderr, same, nonzero, own⟩

/-- **No step passes over the transport.** On a connection by either transport, whatever its state and
whatever the target does: a command that expects zero is said to have failed with a code only if the
code is not zero and the target has reported it in that run. A removal and a wait therefore pass over
such reports and nothing else; any other fault of a step is handed on at once, and no step follows. -/
theorem steps_heed_transport (c : Connection) (os : Os) (poll : PollPolicy)
    (pause : Span → StateM Surroundings Unit) :
    let h : Host Surroundings := { os, poll, run := fun command => c.run command, pause }
    (∀ (command : Command) (s : Surroundings) (text : String) (code : Int32) (stderr : String),
      command.expectedCode = 0 →
      (c.run command s).1 = .error (.commandFailed text code stderr) →
      code ≠ 0 ∧ s.ReportedCode (c.run command s).2 c.transport code) ∧
    (∀ s, ∃ trials,
      h.Removal Host.removal s trials (h.uninstall s).1 (h.uninstall s).2 ∧
      Heeded c trials (h.uninstall s).1 (h.uninstall s).2) ∧
    ∀ s, ∃ trials,
      h.Waiting 0 poll.attempts.toNat s trials (h.waitUntilActive s).1 (h.waitUntilActive s).2 ∧
      Heeded c trials (h.waitUntilActive s).1 (h.waitUntilActive s).2 := by
  intro h
  refine ⟨?_, fun s => ?_, fun s => ?_⟩
  · intro command s text code stderr plain failed
    rcases fault_of_run plain failed with (broken | refused) | ⟨_, _, _, same, nonzero, own⟩
    · cases broken
    · cases refused
    · cases same
      exact ⟨nonzero, own⟩
  · obtain ⟨trials, removal⟩ := h.bestEffort_removal Host.removal s
    exact ⟨trials, removal, heeded_of_stops (fun _ => rfl) removal.stops⟩
  · obtain ⟨trials, wait⟩ := h.awaitActive_waiting 0 poll.attempts.toNat s
    exact ⟨trials, wait, heeded_of_stops (fun _ => rfl) wait.stops⟩

/-- Surroundings in which the first command ends with five, by either transport. -/
def endingWithFive : Surroundings where
  station := .plain "desk" fun _ => .error Surroundings.noNetwork
  ssh := { later := .stalled, openings := [.opened [.exitStatus 5, .close] none] }
  winRm := {
    turns := [.starting "C1", .answering 200 "CommandState/Done\"<rsp:ExitCode>5</rsp:ExitCode>"]
    ending := .silent }
  scriptId := toString

/-- Stopping a service that is not there, as a step over SSH and as a step over WinRM. -/
theorem steps_heed_transport_sample :
    let stop : Command := { text := Os.windows.command .stopService }
    let ssh : Connection := .ssh ⟨.connected, some ⟨⟨"ada", .password "s3cret"⟩⟩, "win"⟩
    let winRm : Connection := .winRm ⟨.connected, some .sample, "win"⟩
    ((ssh.run stop endingWithFive).1 = .error (.commandFailed stop.text 5 "") ∧
      endingWithFive.ReportedCode (ssh.run stop endingWithFive).2 .ssh 5) ∧
    (winRm.run stop endingWithFive).1 = .error (.commandFailed stop.text 5 "") ∧
      endingWithFive.ReportedCode (winRm.run stop endingWithFive).2 .winRm 5 := by
  intro stop ssh winRm
  have overSsh : (ssh.run stop endingWithFive).1 = .error (.commandFailed stop.text 5 "") := rfl
  have overWinRm : (winRm.run stop endingWithFive).1 = .error (.commandFailed stop.text 5 "") := by
    with_unfolding_all rfl
  refine ⟨⟨overSsh, ?_⟩, overWinRm, ?_⟩
  · exact ((steps_heed_transport ssh .windows {} fun _ => pure ()).1 stop _ _ _ _ rfl overSsh).2
  · exact ((steps_heed_transport winRm .windows {} fun _ => pure ()).1 stop _ _ _ _ rfl overWinRm).2

end Hostlink.Connector
