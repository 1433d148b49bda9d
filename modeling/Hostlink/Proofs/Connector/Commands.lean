import Hostlink.Proofs.Connector.Steps
import Hostlink.Proofs.Visit

/-!
# Managing a connector is running commands

A host that is reached by a connection runs its commands there. What is done to install or remove a
connector on it is then commands in a row, whatever they are answered, so none of it connects or
disconnects; that is left to whoever holds the connection.
-/

namespace Hostlink.Connector.Host

/-- **A host that is reached by a connection.** Its pauses leave everything as it is. -/
structure ReachedBy (h : Host Surroundings) (c : Connection) : Prop where
  run : ∀ command, h.run command = c.run command
  pause : ∀ span s, (h.pause span s).2 = s

variable {h : Host Surroundings} {c : Connection}

theorem Takes.next (reached : h.ReachedBy c) {t : Trial Surroundings} (taken : h.Takes t)
    {commands : List Command} {final : Surroundings} (rest : c.Runs t.after commands final) :
    c.Runs t.before ({ text := h.os.command t.operation } :: commands) final := by
  refine .next ?_ rest
  unfold Takes at taken
  rw [← reached.run, taken]

theorem Removal.runs (reached : h.ReachedBy c) {ops : List Operation} {s final : Surroundings}
    {trials : List (Trial Surroundings)} {result : Managed Unit}
    (removal : h.Removal ops s trials result final) : ∃ commands, c.Runs s commands final := by
  induction removal with
  | done => exact ⟨[], .done⟩
  | passed taken _ _ ih =>
    obtain ⟨commands, rest⟩ := ih
    exact ⟨_, taken.next reached rest⟩
  | stopped taken _ _ => exact ⟨_, taken.next reached .done⟩

theorem Waiting.runs (reached : h.ReachedBy c) {polled attempts : Nat} {s final : Surroundings}
    {trials : List (Trial Surroundings)} {result : Managed Unit}
    (wait : h.Waiting polled attempts s trials result final) :
    ∃ commands, c.Runs s commands final := by
  induction wait with
  | active _ taken _ => exact ⟨_, taken.next reached .done⟩
  | stopped _ taken _ _ => exact ⟨_, taken.next reached .done⟩
  | spent _ taken _ _ => exact ⟨_, taken.next reached .done⟩
  | again _ taken _ _ ih =>
    obtain ⟨commands, rest⟩ := ih
    rw [reached.pause] at rest
    exact ⟨_, taken.next reached rest⟩

theorem onlyRuns_perform (reached : h.ReachedBy c) (command : Command) :
    c.OnlyRuns (h.perform command) := by
  intro s
  rw [h.perform_eq, reached.run]
  exact Connection.OnlyRuns.run c command s

theorem onlyRuns_uninstall (reached : h.ReachedBy c) : c.OnlyRuns h.uninstall := by
  intro s
  obtain ⟨trials, took⟩ := h.bestEffort_removal removal s
  exact took.runs reached

theorem onlyRuns_waitUntilActive (reached : h.ReachedBy c) : c.OnlyRuns h.waitUntilActive := by
  intro s
  obtain ⟨trials, took⟩ := h.awaitActive_waiting 0 h.poll.attempts.toNat s
  exact took.runs reached

theorem onlyRuns_connectorId (reached : h.ReachedBy c) : c.OnlyRuns h.connectorId := by
  apply (onlyRuns_perform reached _).bind
  intro answer
  cases answer with
  | ok outcome => exact .pure _
  | error fault => exact .pure _

/-- **An installation only runs commands.** -/
theorem onlyRuns_install (reached : h.ReachedBy c) (script : String) :
    c.OnlyRuns (h.install script) := by
  apply (onlyRuns_uninstall reached).bind
  intro removed
  cases removed with
  | error fault => exact .pure _
  | ok _ =>
    apply (onlyRuns_perform reached { text := script }).bind
    intro ran
    cases ran with
    | error fault => exact .pure _
    | ok outcome =>
      apply (onlyRuns_waitUntilActive reached).bind
      intro waited
      cases waited with
      | error fault => exact .pure _
      | ok _ => exact onlyRuns_connectorId reached

end Hostlink.Connector.Host
