import Hostlink.Proofs.Connector.Steps

/-!
# The course of an installation

An installation has four phases: the removal of what is there, the script, the checks whether the
service is active, and the reading of the configuration. They differ in what ends the work. The
removal and the checks go on behind a command that returned a code, the script and the reading do
not; the checks have a limit; the reading can succeed and still name no connector. `Installation` is
the type of what can happen, phase by phase, and a course that goes on where the work has ended
cannot be built. `install_takes_course` says that nothing else happens, on a machine that may answer
each command in any way its history suggests.

Which commands were run is read off the history of that machine, not off the installation:
`Host.ofHistory` writes down every command as it comes, and how it was answered. The removal and the
wait are taken from what is known of them on any machine, `Host.Removal` and `Host.Waiting`.
-/

namespace Hostlink.Connector

/-! ## Machines with a history -/

/-- What happens on a machine. -/
inductive Event where
  /-- A command is run and answered. -/
  | ran (command : Command) (answer : Attempt Outcome)
  | paused (span : Span)

/-- **A machine that answers by its history**, in whatever way. All that it does is written down. -/
def Host.ofHistory (os : Os) (poll : PollPolicy)
    (respond : List Event → Command → Attempt Outcome) : Host (List Event) where
  os
  poll
  run command := fun past =>
    (respond past command, past ++ [.ran command (respond past command)])
  pause span := fun past => ((), past ++ [.paused span])

/-- A command that was run, and what it came to. -/
structure Answered where
  command : Command
  answer : Attempt Outcome

/-- The commands that were run in a history, in order. -/
def answered (history : List Event) : List Answered :=
  history.filterMap fun
    | .ran command answer => some ⟨command, answer⟩
    | .paused _ => none

@[simp] theorem answered_ran (past : List Event) (command : Command) (answer : Attempt Outcome) :
    answered (past ++ [.ran command answer]) = answered past ++ [⟨command, answer⟩] :=
  List.filterMap_append

@[simp] theorem answered_paused (past : List Event) (span : Span) :
    answered (past ++ [.paused span]) = answered past := by
  rw [answered, List.filterMap_append]
  exact List.append_nil _

/-! ## The removal and the wait in a history -/

/-- The command was run and returned a code that was not expected. -/
def Returned (answer : Attempt Outcome) : Prop :=
  ∃ text code stderr, answer = .error (.commandFailed text code stderr)

theorem Returned.ran {answer : Attempt Outcome} (h : Returned answer) : Ran answer := by
  obtain ⟨text, code, stderr, rfl⟩ := h
  exact .returned text code stderr

/-- What a trial leaves in a history, where it was taken on a system. -/
def Trial.answered {σ : Type} (t : Trial σ) (os : Os) : Answered :=
  ⟨{ text := os.command t.operation }, t.answer⟩

section History

variable {os : Os} {poll : PollPolicy} {respond : List Event → Command → Attempt Outcome}

theorem Host.Takes.after {t : Trial (List Event)}
    (h : (Host.ofHistory os poll respond).Takes t) :
    t.after = t.before ++ [.ran { text := os.command t.operation } t.answer] := by
  obtain ⟨answer, after⟩ := Prod.mk.inj h
  rw [← after, ← answer]
  rfl

/-- A removal leaves its steps in the history. -/
theorem Host.Removal.answered {ops : List Operation} {past final : List Event}
    {trials : List (Trial (List Event))} {result : Managed Unit}
    (h : (Host.ofHistory os poll respond).Removal ops past trials result final) :
    Connector.answered final = Connector.answered past ++ trials.map (·.answered os) := by
  induction h with
  | done => exact (List.append_nil _).symm
  | passed taken _ _ ih =>
    rw [ih, taken.after, answered_ran, List.append_assoc]
    rfl
  | stopped taken => rw [taken.after, answered_ran]; rfl

/-- A wait leaves its checks in the history. -/
theorem Host.Waiting.answered {polled attempts : Nat} {past final : List Event}
    {trials : List (Trial (List Event))} {result : Managed Unit}
    (h : (Host.ofHistory os poll respond).Waiting polled attempts past trials result final) :
    Connector.answered final = Connector.answered past ++ trials.map (·.answered os) := by
  induction h with
  | active _ taken => rw [taken.after, answered_ran]; rfl
  | stopped _ taken => rw [taken.after, answered_ran]; rfl
  | spent _ taken => rw [taken.after, answered_ran]; rfl
  | again _ taken _ _ ih =>
    have pause (past : List Event) :
        ((Host.ofHistory os poll respond).pause (Host.ofHistory os poll respond).poll.tick past).2 =
          past ++ [.paused poll.tick] := rfl
    rw [ih, pause, answered_paused, taken.after, answered_ran, List.append_assoc]
    rfl

end History

/-! ## The course of the removal -/

section Removal

variable {σ : Type} {h : Host σ} {ops : List Operation} {s final : σ} {trials : List (Trial σ)}
  {result : Managed Unit}

theorem Host.Removal.length_le (removal : h.Removal ops s trials result final) :
    trials.length ≤ ops.length := by
  induction removal with
  | done => exact Nat.le_refl 0
  | passed _ _ _ ih => exact Nat.succ_le_succ ih
  | stopped => exact Nat.succ_le_succ (Nat.zero_le _)

theorem Host.Removal.begun (removal : h.Removal ops s trials result final) (some : ops ≠ []) :
    trials ≠ [] := by
  cases removal with
  | done => exact absurd rfl some
  | passed | stopped => exact List.cons_ne_nil _ _

/-- **A step is followed by the next one exactly if it ran.** -/
theorem Host.Removal.onward (removal : h.Removal ops s trials result final) (i : Nat) (t : Trial σ)
    (taken : trials[i]? = some t) (more : i + 1 < ops.length) :
    i + 1 < trials.length ↔ Ran t.answer := by
  induction removal generalizing i with
  | done => cases taken
  | passed _ ran tail ih =>
    cases i with
    | zero =>
      cases taken
      refine iff_of_true ?_ ran
      have begun := tail.begun (List.length_pos_iff.mp (Nat.lt_of_succ_lt_succ more))
      exact Nat.succ_lt_succ (List.length_pos_iff.mpr begun)
    | succ i =>
      rw [List.length_cons, Nat.succ_lt_succ_iff]
      exact ih i taken (Nat.lt_of_succ_lt_succ more)
  | stopped _ _ other =>
    cases i with
    | zero =>
      cases taken
      exact iff_of_false (Nat.lt_irrefl 1) other
    | succ i => cases taken

/-- **A removal goes all the way or ends with the step that stopped it.** -/
theorem Host.Removal.result_cases (removal : h.Removal ops s trials result final) :
    (result = .ok () ∧ trials.length = ops.length ∧ ∀ t ∈ trials, Ran t.answer) ∨
      ∃ t fault, trials.getLast? = some t ∧ t.answer = .error fault ∧ ¬ Ran t.answer ∧
        result = .error (.link fault) := by
  induction removal with
  | done => exact .inl ⟨rfl, rfl, List.forall_mem_nil _⟩
  | passed _ ran _ ih =>
    rcases ih with ⟨all, length, others⟩ | ⟨t, fault, last, failed, other, same⟩
    · exact .inl ⟨all, congrArg (· + 1) length, List.forall_mem_cons.mpr ⟨ran, others⟩⟩
    · refine .inr ⟨t, fault, ?_, failed, other, same⟩
      rw [List.getLast?_cons, last]
      rfl
  | stopped _ failed other => exact .inr ⟨_, _, rfl, failed, other, rfl⟩

/-- The steps that are taken are the first ones, in order. -/
theorem Host.Removal.zip (removal : h.Removal ops s trials result final) (os : Os) :
    trials.map (·.answered os) =
      List.zipWith (fun o answer => ⟨{ text := os.command o }, answer⟩) ops
        (trials.map (·.answer)) := by
  induction removal with
  | done => rfl
  | passed _ _ _ ih => exact congrArg (_ :: ·) ih
  | stopped => rw [List.map_cons, List.map_nil, List.map_cons, List.map_nil, List.zipWith_cons_cons,
      List.zipWith_nil_right]; rfl

end Removal

/-- **The course of a removal**: what its steps came to, as far as they were taken. -/
structure RemovalCourse where
  answers : List (Attempt Outcome)
  begun : answers ≠ []
  few : answers.length ≤ Host.removal.length
  /-- A step is followed by the next one exactly if it ran. -/
  onward : ∀ i answer, answers[i]? = some answer → i + 1 < Host.removal.length →
    (i + 1 < answers.length ↔ Ran answer)

namespace RemovalCourse

/-- The last step of all was taken, and it ran. -/
def Passed (c : RemovalCourse) : Prop := ∃ answer, c.answers[2]? = some answer ∧ Ran answer

/-- The commands of the removal as they were answered. -/
def answered (c : RemovalCourse) (os : Os) : List Answered :=
  List.zipWith (fun o answer => ⟨{ text := os.command o }, answer⟩) Host.removal c.answers

theorem passed_length {c : RemovalCourse} (h : c.Passed) : c.answers.length = 3 := by
  obtain ⟨answer, last, _⟩ := h
  have bound := (List.getElem?_eq_some_iff.mp last).1
  have few : c.answers.length ≤ 3 := c.few
  omega

/-- A removal whose last step did not run has not passed. -/
theorem not_passed_of_last {c : RemovalCourse} {answer : Attempt Outcome}
    (last : c.answers.getLast? = some answer) (other : ¬ Ran answer) : ¬ c.Passed := by
  intro passed
  have length := c.passed_length passed
  obtain ⟨third, same, ran⟩ := passed
  rw [List.getLast?_eq_getElem?, length, same] at last
  exact other (Option.some.inj last ▸ ran)

end RemovalCourse

/-- **A removal takes a course of its own**, which passes exactly if the removal succeeds. -/
theorem Host.Removal.course {σ : Type} {h : Host σ} {s final : σ} {trials : List (Trial σ)}
    {result : Managed Unit} (removal : h.Removal Host.removal s trials result final) (os : Os) :
    ∃ c : RemovalCourse, trials.map (·.answered os) = c.answered os ∧
      (result = .ok () ∧ c.Passed ∨
        ∃ fault, c.answers.getLast? = some (.error fault) ∧ ¬ Ran (.error fault) ∧
          result = .error (.link fault)) := by
  let answers := trials.map (·.answer)
  have onward (i : Nat) (answer : Attempt Outcome) (taken : answers[i]? = some answer)
      (more : i + 1 < Host.removal.length) : i + 1 < answers.length ↔ Ran answer := by
    rw [List.getElem?_map] at taken
    obtain ⟨t, there, rfl⟩ := Option.map_eq_some_iff.mp taken
    rw [List.length_map]
    exact removal.onward i t there more
  have begun : answers ≠ [] := fun none =>
    removal.begun (List.cons_ne_nil _ _) (List.map_eq_nil_iff.mp none)
  have few : answers.length ≤ Host.removal.length := by
    rw [List.length_map]
    exact removal.length_le
  refine ⟨⟨answers, begun, few, onward⟩, removal.zip os, ?_⟩
  rcases removal.result_cases with ⟨all, length, ran⟩ | ⟨t, fault, last, failed, other, same⟩
  · refine .inl ⟨all, ?_⟩
    have third : 2 < trials.length := by
      rw [length]
      decide
    refine ⟨trials[2].answer, ?_, ran _ (List.getElem_mem third)⟩
    show (trials.map (·.answer))[2]? = _
    rw [List.getElem?_map, List.getElem?_eq_getElem third]
    rfl
  · refine .inr ⟨fault, ?_, failed ▸ other, same⟩
    show (trials.map (·.answer)).getLast? = _
    rw [List.getLast?_map, last, Option.map_some, failed]

/-! ## The course of the wait -/

section Waiting

variable {σ : Type} {h : Host σ} {polled attempts : Nat} {s final : σ} {trials : List (Trial σ)}
  {result : Managed Unit}

theorem Host.Waiting.begun (wait : h.Waiting polled attempts s trials result final) :
    trials ≠ [] := by
  cases wait with
  | active | stopped | spent | again => exact List.cons_ne_nil _ _

theorem Host.Waiting.length_le (wait : h.Waiting polled attempts s trials result final) :
    trials.length ≤ max attempts 1 := by
  induction wait with
  | active | stopped | spent => exact Nat.le_max_right _ 1
  | again _ _ _ _ ih =>
    rw [List.length_cons]
    omega

theorem Host.Waiting.asks (wait : h.Waiting polled attempts s trials result final) :
    ∀ t ∈ trials, t.operation = .checkActive := by
  induction wait with
  | active asked | stopped asked | spent asked => exact List.forall_mem_singleton.mpr asked
  | again asked _ _ _ ih => exact List.forall_mem_cons.mpr ⟨asked, ih⟩

/-- A check on its own is the last one. -/
theorem onward_single {t t' : Trial σ} {i limit : Nat} (taken : [t'][i]? = some t)
    (last : ¬ (Returned t'.answer ∧ 1 < limit)) :
    i + 1 < [t'].length ↔ Returned t.answer ∧ i + 1 < limit := by
  cases i with
  | zero =>
    cases taken
    exact iff_of_false (Nat.lt_irrefl 1) last
  | succ i => cases taken

/-- **A check is followed by another one exactly if it returned a code** and there may be another. -/
theorem Host.Waiting.onward (wait : h.Waiting polled attempts s trials result final) (i : Nat)
    (t : Trial σ) (taken : trials[i]? = some t) :
    i + 1 < trials.length ↔ Returned t.answer ∧ i + 1 < max attempts 1 := by
  induction wait generalizing i with
  | active _ _ succeeded =>
    refine onward_single taken ?_
    rintro ⟨⟨_, _, _, returned⟩, _⟩
    cases succeeded.symm.trans returned
  | stopped _ _ _ other => exact onward_single taken fun h => other h.1.ran
  | spent _ _ _ few =>
    refine onward_single taken ?_
    rintro ⟨_, more⟩
    omega
  | again _ _ failed tail ih =>
    cases i with
    | zero =>
      cases taken
      have begun := List.length_pos_iff.mpr tail.begun
      refine iff_of_true ?_ ⟨⟨_, _, _, failed⟩, by omega⟩
      rw [List.length_cons]
      omega
    | succ i =>
      have next := ih i taken
      rw [List.length_cons, Nat.succ_lt_succ_iff, next]
      exact and_congr_right fun _ => by omega

/-- **A wait ends with a check that succeeded, with one that did not run, or with the last there may
be**, and then all have returned codes. -/
theorem Host.Waiting.result_cases (wait : h.Waiting polled attempts s trials result final) :
    (result = .ok () ∧ ∃ t o, trials.getLast? = some t ∧ t.answer = .ok o) ∨
      (∃ t fault, trials.getLast? = some t ∧ t.answer = .error fault ∧ ¬ Ran t.answer ∧
        result = .error (.link fault)) ∨
      result = .error (.inactive (polled + max attempts 1)) ∧ trials.length = max attempts 1 ∧
        ∀ t ∈ trials, Returned t.answer := by
  induction wait with
  | active _ _ succeeded => exact .inl ⟨rfl, _, _, rfl, succeeded⟩
  | stopped _ _ failed other => exact .inr (.inl ⟨_, _, rfl, failed, other, rfl⟩)
  | @spent polled attempts t text code stderr _ _ failed few =>
    have one : max attempts 1 = 1 := Nat.max_eq_right few
    refine .inr (.inr ⟨by rw [one], by rw [one]; rfl, ?_⟩)
    exact List.forall_mem_singleton.mpr ⟨_, _, _, failed⟩
  | @again polled attempts t text code stderr trials result final _ _ failed tail ih =>
    have last : (t :: trials).getLast? = trials.getLast? := by
      rw [List.getLast?_cons_of_ne_nil tail.begun]
    rw [last]
    rcases ih with active | stopped | ⟨spent, length, all⟩
    · exact .inl active
    · exact .inr (.inl stopped)
    · refine .inr (.inr ⟨?_, ?_, List.forall_mem_cons.mpr ⟨⟨_, _, _, failed⟩, all⟩⟩)
      · rw [spent]
        congr 2
        omega
      · rw [List.length_cons, length]
        omega

end Waiting

/-- **The course of a wait** with so many checks at most: what they came to. -/
structure WaitCourse (limit : Nat) where
  answers : List (Attempt Outcome)
  begun : answers ≠ []
  few : answers.length ≤ limit
  /-- A check is followed by another one exactly if it returned a code and was not the last there
  may be. -/
  onward : ∀ i answer, answers[i]? = some answer →
    (i + 1 < answers.length ↔ Returned answer ∧ i + 1 < limit)

namespace WaitCourse

variable {limit : Nat}

/-- The last check succeeded. -/
def Active (c : WaitCourse limit) : Prop := ∃ o, c.answers.getLast? = some (.ok o)

/-- The checks as they were answered. -/
def answered (c : WaitCourse limit) (os : Os) : List Answered :=
  c.answers.map (⟨{ text := os.command .checkActive }, ·⟩)

theorem not_active_of_last {c : WaitCourse limit} {fault : LinkFault}
    (last : c.answers.getLast? = some (.error fault)) : ¬ c.Active := by
  rintro ⟨o, active⟩
  cases last.symm.trans active

theorem not_active_of_returned {c : WaitCourse limit} (all : ∀ answer ∈ c.answers, Returned answer) :
    ¬ c.Active := by
  obtain ⟨text, code, stderr, returned⟩ := all _ (List.getLast_mem c.begun)
  exact not_active_of_last ((List.getLast?_eq_some_getLast c.begun).trans (congrArg some returned))

end WaitCourse

/-- **A wait takes a course of its own**, in which the last check succeeds exactly if the wait
does. -/
theorem Host.Waiting.course {σ : Type} {h : Host σ} {attempts : Nat} {s final : σ}
    {trials : List (Trial σ)} {result : Managed Unit}
    (wait : h.Waiting 0 attempts s trials result final) (os : Os) :
    ∃ c : WaitCourse (max attempts 1), trials.map (·.answered os) = c.answered os ∧
      (result = .ok () ∧ c.Active ∨
        (∃ fault, c.answers.getLast? = some (.error fault) ∧ ¬ Ran (.error fault) ∧
          result = .error (.link fault)) ∨
        c.answers.length = max attempts 1 ∧ (∀ answer ∈ c.answers, Returned answer) ∧
          result = .error (.inactive (max attempts 1))) := by
  let answers := trials.map (·.answer)
  have onward (i : Nat) (answer : Attempt Outcome) (taken : answers[i]? = some answer) :
      i + 1 < answers.length ↔ Returned answer ∧ i + 1 < max attempts 1 := by
    rw [List.getElem?_map] at taken
    obtain ⟨t, there, rfl⟩ := Option.map_eq_some_iff.mp taken
    rw [List.length_map]
    exact wait.onward i t there
  have begun : answers ≠ [] := fun none => wait.begun (List.map_eq_nil_iff.mp none)
  have few : answers.length ≤ max attempts 1 := by
    rw [List.length_map]
    exact wait.length_le
  have asked : trials.map (·.answered os) =
      answers.map (⟨{ text := os.command .checkActive }, ·⟩) := by
    rw [List.map_map]
    refine List.map_congr_left fun t among => ?_
    simp only [Trial.answered, wait.asks t among, Function.comp_apply]
  have last {t : Trial σ} (h : trials.getLast? = some t) : answers.getLast? = some t.answer := by
    rw [List.getLast?_map, h, Option.map_some]
  refine ⟨⟨answers, begun, few, onward⟩, asked, ?_⟩
  rcases wait.result_cases with ⟨same, t, o, there, came⟩ | ⟨t, fault, there, came, other, same⟩ |
      ⟨same, length, all⟩
  · exact .inl ⟨same, o, came ▸ last there⟩
  · exact .inr (.inl ⟨fault, came ▸ last there, came ▸ other, same⟩)
  · refine .inr (.inr ⟨?_, ?_, ?_⟩)
    · rw [List.length_map, length]
    · exact List.forall_mem_map.mpr all
    · rw [same, Nat.zero_add]

/-! ## The whole course -/

/-- **The course of an installation** with so many checks at most, phase by phase, as far as it
went. -/
structure Installation (limit : Nat) where
  removal : RemovalCourse
  script : Option (Attempt Outcome)
  checks : Option (WaitCourse limit)
  reading : Option (Attempt Outcome)
  /-- The script is run exactly if the last step of the removal ran. -/
  script_iff : script.isSome ↔ removal.Passed
  /-- The checks begin exactly if the script succeeded. -/
  checks_iff : checks.isSome ↔ ∃ o, script = some (.ok o)
  /-- The configuration is read exactly if the last check succeeded. -/
  reading_iff : reading.isSome ↔ ∃ wait, checks = some wait ∧ wait.Active

/-- **A configuration names a connector**: it has the field with something in it, and the identifier
is what that is without the blanks around it. -/
def Names (config id : String) : Prop :=
  ∃ document value, Yaml.Document.ofText config = .ok document ∧
    document.field? idField = .ok (some value) ∧ Text.trim value = id ∧ id ≠ ""

theorem readId_of_value {config value : String} {document : Yaml.Document}
    (parsed : Yaml.Document.ofText config = .ok document)
    (found : document.field? idField = .ok (some value)) :
    readId config =
      if Text.trim value = "" then .error .missingId else .ok (Text.trim value) := by
  unfold readId
  simp only [parsed, found, bind, Except.bind]
  by_cases blank : Text.trim value = ""
  · simp [Option.filter, blank, pure, Except.pure]
    rfl
  · simp [Option.filter, blank, pure, Except.pure]

theorem readId_of_no_value {config : String}
    (none : ∀ document value, Yaml.Document.ofText config = .ok document →
      document.field? idField ≠ .ok (some value)) : ∃ fault, readId config = .error fault := by
  unfold readId
  cases parsed : Yaml.Document.ofText config with
  | error fault => exact ⟨_, rfl⟩
  | ok document =>
    simp only [bind, Except.bind]
    cases found : document.field? idField with
    | error fault => exact ⟨_, rfl⟩
    | ok value =>
      cases value with
      | none => exact ⟨_, rfl⟩
      | some value => exact absurd found (none document value parsed)

/-- **An identifier is read exactly from a configuration that names it.** -/
theorem readId_eq_ok_iff {config id : String} : readId config = .ok id ↔ Names config id := by
  constructor
  · intro h
    by_cases value : ∃ document value, Yaml.Document.ofText config = .ok document ∧
        document.field? idField = .ok (some value)
    · obtain ⟨document, value, parsed, found⟩ := value
      rw [readId_of_value parsed found] at h
      split at h
      next => cases h
      next inhabited =>
        cases h
        exact ⟨document, value, parsed, found, rfl, inhabited⟩
    · obtain ⟨fault, failed⟩ := readId_of_no_value fun document v parsed found =>
        value ⟨document, v, parsed, found⟩
      cases failed.symm.trans h
  · rintro ⟨document, value, parsed, found, rfl, inhabited⟩
    rw [readId_of_value parsed found, if_neg inhabited]

namespace Installation

variable {limit : Nat}

/-- The commands of an installation by a script, as they were answered, in order. -/
def answered (c : Installation limit) (os : Os) (script : String) : List Answered :=
  c.removal.answered os ++ c.script.toList.map (⟨{ text := script }, ·⟩) ++
    c.checks.toList.flatMap (·.answered os) ++
      c.reading.toList.map (⟨{ text := os.command .readConfig }, ·⟩)

/-- Without the script nothing is checked. -/
theorem checks_of_unrun {c : Installation limit} (unrun : c.script = none) : c.checks = none := by
  refine Option.not_isSome_iff_eq_none.mp fun h => ?_
  obtain ⟨o, succeeded⟩ := c.checks_iff.mp h
  cases unrun.symm.trans succeeded

/-- Without checks nothing is read. -/
theorem reading_of_unchecked {c : Installation limit} (unchecked : c.checks = none) :
    c.reading = none := by
  refine Option.not_isSome_iff_eq_none.mp fun h => ?_
  obtain ⟨wait, waited, _⟩ := c.reading_iff.mp h
  cases unchecked.symm.trans waited

/-- **What an installation comes to**: what the step makes of it that was the last. -/
inductive ComesTo (c : Installation limit) : Managed String → Prop
  | removal {fault : LinkFault} (last : c.removal.answers.getLast? = some (.error fault))
      (other : ¬ Ran (.error fault)) : ComesTo c (.error (.link fault))
  | script {fault : LinkFault} (failed : c.script = some (.error fault)) :
      ComesTo c (.error (.link fault))
  | check {wait : WaitCourse limit} {fault : LinkFault} (waited : c.checks = some wait)
      (last : wait.answers.getLast? = some (.error fault)) (other : ¬ Ran (.error fault)) :
      ComesTo c (.error (.link fault))
  /-- As many checks as there may be, all of which returned codes. -/
  | inactive {wait : WaitCourse limit} (waited : c.checks = some wait)
      (spent : wait.answers.length = limit) (all : ∀ answer ∈ wait.answers, Returned answer) :
      ComesTo c (.error (.inactive limit))
  | unread {fault : LinkFault} (failed : c.reading = some (.error fault)) :
      ComesTo c (.error (.link fault))
  | read {o : Outcome} (came : c.reading = some (.ok o)) : ComesTo c (readId o.stdout)

/-- An identifier is the answer exactly if the configuration was read and names it. -/
theorem ComesTo.ok_iff {c : Installation limit} {result : Managed String} (h : c.ComesTo result)
    (id : String) : result = .ok id ↔ ∃ o, c.reading = some (.ok o) ∧ Names o.stdout id := by
  have unread {fault : ConnectorFault} (missing : ∀ o, c.reading ≠ some (.ok o)) :
      (.error fault : Managed String) = .ok id ↔
        ∃ o, c.reading = some (.ok o) ∧ Names o.stdout id :=
    iff_of_false (fun same => by cases same) fun h => missing h.choose h.choose_spec.1
  -- a phase that has not succeeded leaves nothing for the reading
  have of_checks (inactive : ∀ wait, c.checks = some wait → ¬ wait.Active) (o : Outcome) :
      c.reading ≠ some (.ok o) := fun read => by
    obtain ⟨wait, waited, active⟩ := c.reading_iff.mp (Option.isSome_of_eq_some read)
    exact inactive wait waited active
  have of_script (failed : ∀ o, c.script ≠ some (.ok o)) : ∀ o, c.reading ≠ some (.ok o) :=
    of_checks fun wait waited _ => by
      obtain ⟨o, succeeded⟩ := c.checks_iff.mp (Option.isSome_of_eq_some waited)
      exact failed o succeeded
  have of_wait {wait : WaitCourse limit} (waited : c.checks = some wait)
      (inactive : ¬ wait.Active) : ∀ o, c.reading ≠ some (.ok o) :=
    of_checks fun wait' waited' => Option.some.inj (waited.symm.trans waited') ▸ inactive
  cases h with
  | removal last other =>
    refine unread (of_script fun o succeeded => ?_)
    exact c.removal.not_passed_of_last last other
      (c.script_iff.mp (Option.isSome_of_eq_some succeeded))
  | script failed => exact unread (of_script fun o same => by cases failed.symm.trans same)
  | check waited last => exact unread (of_wait waited (WaitCourse.not_active_of_last last))
  | inactive waited _ all =>
    exact unread (of_wait waited (WaitCourse.not_active_of_returned all))
  | unread failed => exact unread fun o same => by cases failed.symm.trans same
  | @read o came =>
    rw [readId_eq_ok_iff]
    refine ⟨fun names => ⟨o, came, names⟩, ?_⟩
    rintro ⟨o', came', names⟩
    cases came.symm.trans came'
    exact names

end Installation

/-! ## What is run -/

/-- **The commands of an installation that goes all the way**, with so many checks. -/
def planned (os : Os) (script : String) (checks : Nat) : List Command :=
  Host.removal.map (fun o => { text := os.command o }) ++ { text := script } ::
    List.replicate checks { text := os.command .checkActive } ++
      [{ text := os.command .readConfig }]

/-- Operations that are answered as far as there are answers are the first ones. -/
theorem zipWith_command (os : Os) (ops : List Operation) (answers : List (Attempt Outcome)) :
    (List.zipWith (fun o answer => (⟨{ text := os.command o }, answer⟩ : Answered)) ops
      answers).map (·.command) <+: ops.map fun o => { text := os.command o } := by
  induction ops generalizing answers with
  | nil => exact List.prefix_refl []
  | cons o ops ih =>
    cases answers with
    | nil => exact List.nil_prefix
    | cons answer answers => exact List.cons_prefix_cons.mpr ⟨rfl, ih answers⟩

/-- A removal that has passed was taken to the end. -/
theorem RemovalCourse.commands_of_passed {c : RemovalCourse} (h : c.Passed) (os : Os) :
    (c.answered os).map (·.command) = Host.removal.map fun o => { text := os.command o } := by
  refine (zipWith_command os Host.removal c.answers).eq_of_length ?_
  rw [List.length_map, List.length_zipWith, c.passed_length h, List.length_map]
  rfl

theorem WaitCourse.commands {limit : Nat} (c : WaitCourse limit) (os : Os) :
    (c.answered os).map (·.command) =
      List.replicate c.answers.length { text := os.command .checkActive } := by
  rw [WaitCourse.answered, List.map_map]
  exact List.map_const

/-- **What is run are the first commands of those planned**, with one check at least and no more than
there may be. -/
theorem Installation.planned {limit : Nat} (c : Installation limit) (some : 0 < limit) (os : Os)
    (script : String) :
    ∃ checks, 1 ≤ checks ∧ checks ≤ limit ∧
      (c.answered os script).map (·.command) <+: Connector.planned os script checks := by
  unfold Installation.answered Connector.planned
  cases ran : c.script with
  | none =>
    have unchecked := c.checks_of_unrun ran
    refine ⟨1, Nat.le_refl 1, some, ?_⟩
    rw [unchecked, c.reading_of_unchecked unchecked]
    simp only [Option.toList_none, List.map_nil, List.flatMap_nil, List.append_nil]
    refine (zipWith_command os _ _).trans ?_
    rw [List.append_assoc]
    exact List.prefix_append _ _
  | some answer =>
    have removed := RemovalCourse.commands_of_passed
      (c.script_iff.mp (Option.isSome_of_eq_some ran)) os
    cases waited : c.checks with
    | none =>
      refine ⟨1, Nat.le_refl 1, some, ?_⟩
      rw [c.reading_of_unchecked waited]
      simp only [Option.toList_none, Option.toList_some, List.map_nil, List.flatMap_nil,
        List.append_nil, List.map_append, List.map_cons, removed]
      rw [List.append_assoc, List.prefix_append_right_inj]
      exact List.prefix_append _ _
    | some wait =>
      refine ⟨wait.answers.length, List.length_pos_iff.mpr wait.begun, wait.few, ?_⟩
      simp only [Option.toList_some, List.map_append, List.map_cons, List.map_nil, removed,
        List.flatMap_cons, List.flatMap_nil, List.append_nil, wait.commands]
      simp only [List.append_assoc, List.cons_append, List.nil_append, List.prefix_append_right_inj,
        List.cons_prefix_cons, true_and]
      cases c.reading with
      | none => exact List.nil_prefix
      | some answer => exact List.prefix_refl _

/-! ## The installation -/

section Phases

variable (os : Os) (poll : PollPolicy) (respond : List Event → Command → Attempt Outcome)

theorem ofHistory_perform (command : Command) (past : List Event) :
    (Host.ofHistory os poll respond).perform command past =
      ((respond past command).mapError .link,
        past ++ [.ran command (respond past command)]) :=
  (Host.ofHistory os poll respond).perform_eq command past

theorem ofHistory_uninstall (past : List Event) :
    ∃ (c : RemovalCourse) (s : List Event), answered s = answered past ++ c.answered os ∧
      ((Host.ofHistory os poll respond).uninstall past = (.ok (), s) ∧ c.Passed ∨
        ∃ fault, (Host.ofHistory os poll respond).uninstall past = (.error (.link fault), s) ∧
          c.answers.getLast? = some (.error fault) ∧ ¬ Ran (.error fault)) := by
  obtain ⟨trials, removal⟩ := (Host.ofHistory os poll respond).bestEffort_removal Host.removal past
  obtain ⟨c, taken, came⟩ := removal.course os
  refine ⟨c, _, taken ▸ removal.answered, ?_⟩
  rcases came with ⟨same, passed⟩ | ⟨fault, last, other, same⟩
  · exact .inl ⟨Prod.ext same rfl, passed⟩
  · exact .inr ⟨fault, Prod.ext same rfl, last, other⟩

theorem ofHistory_waitUntilActive (past : List Event) :
    ∃ (c : WaitCourse (max poll.attempts.toNat 1)) (s : List Event),
      answered s = answered past ++ c.answered os ∧
      ((Host.ofHistory os poll respond).waitUntilActive past = (.ok (), s) ∧ c.Active ∨
        (∃ fault, (Host.ofHistory os poll respond).waitUntilActive past = (.error (.link fault), s) ∧
          c.answers.getLast? = some (.error fault) ∧ ¬ Ran (.error fault)) ∨
        (Host.ofHistory os poll respond).waitUntilActive past =
            (.error (.inactive (max poll.attempts.toNat 1)), s) ∧
          c.answers.length = max poll.attempts.toNat 1 ∧ ∀ answer ∈ c.answers, Returned answer) := by
  obtain ⟨trials, wait⟩ :=
    (Host.ofHistory os poll respond).awaitActive_waiting 0 poll.attempts.toNat past
  obtain ⟨c, taken, came⟩ := wait.course os
  refine ⟨c, _, taken ▸ wait.answered, ?_⟩
  rcases came with ⟨same, active⟩ | ⟨fault, last, other, same⟩ | ⟨spent, all, same⟩
  · exact .inl ⟨Prod.ext same rfl, active⟩
  · exact .inr (.inl ⟨fault, Prod.ext same rfl, last, other⟩)
  · exact .inr (.inr ⟨Prod.ext same rfl, spent, all⟩)

theorem ofHistory_connectorId (past : List Event) :
    ∃ answer : Attempt Outcome, (Host.ofHistory os poll respond).connectorId past =
      ((answer.mapError .link).bind fun o => readId o.stdout,
        past ++ [.ran { text := os.command .readConfig } answer]) := by
  refine ⟨respond past { text := os.command .readConfig }, ?_⟩
  have read := ofHistory_perform os poll respond { text := os.command .readConfig } past
  unfold Host.connectorId Host.operate
  simp only [bind, StateT.bind, show (Host.ofHistory os poll respond).os = os from rfl, read]
  cases respond past { text := os.command .readConfig } with
  | ok | error => rfl

end Phases

end Hostlink.Connector
