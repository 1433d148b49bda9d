import Hostlink.Proofs.Connector.Installation
import Hostlink.Proofs.Link.Budget

/-!
# How often a service is asked

A wait asks whether the service is active, and asks again as long as the check returns a code and
the policy allows another one. On a machine whose checks come to a sequence of outcomes that is
known, this gives the number of the last check, what the wait comes to, and all that happens
meanwhile, checks and pauses, in order: `waitUntilActive_polls`.

The number of the last check is that of a last try (`Link.LastTry`), as for a dial that is refused;
what calls for another one differs, and so does what is answered where none is left.
-/

namespace Hostlink.Connector

section Waiting

variable {σ : Type} {h : Host σ} {polled attempts : Nat} {s final : σ} {trials : List (Trial σ)}
  {result : Managed Unit}

/-- What a wait comes to that allows so many checks, if its last one came to `answer`: what this
succeeded with or failed with, but where it returned a code, the service is inactive. -/
structure Settles (limit : Nat) (answer : Attempt Outcome) (result : Managed Unit) : Prop where
  active : result = .ok () ↔ ∃ o, answer = .ok o
  stopped : ∀ fault, result = .error (.link fault) ↔ answer = .error fault ∧ ¬ Returned answer
  inactive : ∀ m, result = .error (.inactive m) ↔ m = limit ∧ Returned answer

theorem Settles.ok (limit : Nat) (o : Outcome) : Settles limit (.ok o) (.ok ()) where
  active := by simp
  stopped := by simp
  inactive := by simp [Returned]

theorem Settles.link (limit : Nat) {fault : LinkFault}
    (other : ¬ Returned (Except.error fault : Attempt Outcome)) :
    Settles limit (.error fault) (.error (.link fault)) where
  active := by simp
  stopped fault' := by
    constructor
    · rintro ⟨⟩
      exact ⟨rfl, other⟩
    · rintro ⟨⟨⟩, _⟩
      rfl
  inactive := by simp [other]

theorem Settles.spent (limit : Nat) {answer : Attempt Outcome} (returned : Returned answer) :
    Settles limit answer (.error (.inactive limit)) where
  active := by
    obtain ⟨text, code, stderr, rfl⟩ := returned
    simp
  stopped := by simp [returned]
  inactive m := by
    constructor
    · rintro ⟨⟩
      exact ⟨rfl, returned⟩
    · rintro ⟨rfl, _⟩
      rfl

section InOrder

variable {outcomes : Nat → Attempt Outcome}
  (inOrder : trials.map (·.answer) = (List.range' 1 trials.length).map outcomes)
include inOrder

/-- Where the checks come to one outcome after another, so does each of them. -/
theorem answer_of_inOrder {i : Nat} {t : Trial σ} (taken : trials[i]? = some t) :
    t.answer = outcomes (i + 1) := by
  have within : i < trials.length := (List.getElem?_eq_some_iff.mp taken).1
  have same : (trials.map (·.answer))[i]? = ((List.range' 1 trials.length).map outcomes)[i]? :=
    congrArg (·[i]?) inOrder
  rw [List.getElem?_map, taken, List.getElem?_map, List.getElem?_range' within, Nat.one_mul,
    Nat.add_comm] at same
  exact Option.some.inj same

/-- The last check of a wait is a last try. -/
theorem Host.Waiting.lastTry (wait : h.Waiting polled attempts s trials result final) :
    Link.LastTry (max attempts 1) (fun i => Returned (outcomes i)) trials.length := by
  have begun : 1 ≤ trials.length := List.length_pos_iff.mpr wait.begun
  have onward (i : Nat) (positive : 1 ≤ i) (within : i ≤ trials.length) :
      i < trials.length ↔ Returned (outcomes i) ∧ i < max attempts 1 := by
    have taken := List.getElem?_eq_getElem (show i - 1 < trials.length by omega)
    have next := wait.onward (i - 1) _ taken
    rw [answer_of_inOrder inOrder taken, Nat.sub_add_cancel positive] at next
    exact next
  refine Link.lastTry_iff.mpr ⟨begun, wait.length_le, ?_, fun i positive before => ?_⟩
  · rcases Nat.lt_or_eq_of_le wait.length_le with few | whole
    · refine .inr fun returned => ?_
      exact Nat.lt_irrefl _ ((onward _ begun (Nat.le_refl _)).mpr ⟨returned, few⟩)
    · exact .inl whole
  · exact ((onward i positive (Nat.le_of_lt before)).mp before).1

/-- **A wait is settled by its last check.** -/
theorem Host.Waiting.settled (wait : h.Waiting polled attempts s trials result final) :
    Settles (polled + max attempts 1) (outcomes trials.length) result := by
  have begun : 1 ≤ trials.length := List.length_pos_iff.mpr wait.begun
  have answer {t : Trial σ} (last : trials.getLast? = some t) :
      t.answer = outcomes trials.length := by
    rw [List.getLast?_eq_getElem?] at last
    rw [answer_of_inOrder inOrder last, Nat.sub_add_cancel begun]
  rcases wait.result_cases with ⟨same, t, o, last, succeeded⟩ |
      ⟨t, fault, last, failed, other, same⟩ | ⟨same, _, all⟩
  · rw [same, ← answer last, succeeded]
    exact .ok _ o
  · rw [failed] at other
    rw [same, ← answer last, failed]
    exact .link _ fun returned => other returned.ran
  · have last := List.getLast?_eq_some_getLast wait.begun
    rw [same, ← answer last]
    exact .spent _ (all _ (List.getLast_mem wait.begun))

end InOrder

end Waiting

section History

/-- A check in a history, and what it came to. -/
def checked (os : Os) (answer : Attempt Outcome) : Event :=
  .ran { text := os.command .checkActive } answer

variable {os : Os} {poll : PollPolicy}

theorem ofHistory_tick (respond : List Event → Command → Attempt Outcome) (past : List Event) :
    ((Host.ofHistory os poll respond).pause (Host.ofHistory os poll respond).poll.tick past).2 =
      past ++ [.paused poll.tick] := rfl

/-- **What happens during a wait**: each check, and between each two of them a pause. By induction
on the wait. -/
theorem Host.Waiting.history {respond : List Event → Command → Attempt Outcome}
    {polled attempts : Nat} {past final : List Event} {trials : List (Trial (List Event))}
    {result : Managed Unit}
    (wait : (Host.ofHistory os poll respond).Waiting polled attempts past trials result final) :
    final = past ++ [.paused poll.tick].intercalate
      ((trials.map (·.answer)).map fun answer => [checked os answer]) := by
  have after {t : Trial (List Event)} (asked : t.operation = .checkActive)
      (taken : (Host.ofHistory os poll respond).Takes t) :
      t.after = t.before ++ [checked os t.answer] := by
    rw [taken.after, asked, checked]
  induction wait with
  | active asked taken | stopped asked taken | spent asked taken =>
    rw [after asked taken, List.map_singleton, List.map_singleton, List.intercalate_singleton]
  | @again polled attempts t text code stderr trials result final asked taken _ tail ih =>
    have more : (trials.map (·.answer)).map (fun answer => [checked os answer]) ≠ [] :=
      mt (fun none => List.map_eq_nil_iff.mp (List.map_eq_nil_iff.mp none)) tail.begun
    rw [ih, ofHistory_tick, after asked taken, List.map_cons, List.map_cons,
      List.intercalate_cons_of_ne_nil more]
    simp only [List.append_assoc]

/-- **A machine whose commands come to a sequence of outcomes**, whatever they are. -/
def Host.yielding (os : Os) (poll : PollPolicy) (outcomes : Nat → Attempt Outcome) :
    Host (List Event) :=
  .ofHistory os poll fun past _ => outcomes ((answered past).length + 1)

variable {outcomes : Nat → Attempt Outcome}

/-- On such a machine the checks of a wait come to one outcome after another. By induction on the
wait. -/
theorem Host.Waiting.inOrder {polled attempts : Nat} {past final : List Event}
    {trials : List (Trial (List Event))} {result : Managed Unit}
    (wait : (Host.yielding os poll outcomes).Waiting polled attempts past trials result final) :
    trials.map (·.answer) =
      (List.range' ((Connector.answered past).length + 1) trials.length).map outcomes := by
  have next {t : Trial (List Event)} (taken : (Host.yielding os poll outcomes).Takes t) :
      t.answer = outcomes ((Connector.answered t.before).length + 1) :=
    (congrArg Prod.fst taken).symm
  induction wait with
  | active _ taken | stopped _ taken | spent _ taken => exact congrArg ([·]) (next taken)
  | @again polled attempts t _ _ _ trials _ _ _ taken _ _ ih =>
    rw [List.map_cons, next taken, ih, Host.yielding, ofHistory_tick, answered_paused,
      Host.Takes.after taken, answered_ran, List.length_append, List.length_singleton,
      List.length_cons, List.range'_succ, List.map_cons]

/-- **What a wait does, over any sequence of outcomes**, under any policy. The check is run up to
the last try, where a check is to be repeated if it returned a code; between each two checks the
tick passes once, and nothing else happens. The wait succeeds if the last check does, and hands its
fault on if that is another one; the service is found inactive, after as many checks as there may
be, exactly if each of them returned a code. -/
theorem waitUntilActive_polls (os : Os) (poll : PollPolicy) (outcomes : Nat → Attempt Outcome) :
    let run := (Host.yielding os poll outcomes).waitUntilActive []
    let limit := max poll.attempts.toNat 1
    ∃ k, Link.LastTry limit (fun i => Returned (outcomes i)) k ∧
      run.2 = [.paused poll.tick].intercalate ((List.range' 1 k).map fun i =>
        [.ran { text := os.command .checkActive } (outcomes i)]) ∧
      (run.1 = .ok () ↔ ∃ o, outcomes k = .ok o) ∧
      (∀ fault, run.1 = .error (.link fault) ↔
        outcomes k = .error fault ∧ ¬ Returned (outcomes k)) ∧
      ∀ m, run.1 = .error (.inactive m) ↔
        m = limit ∧ ∀ i, 1 ≤ i → i ≤ limit → Returned (outcomes i) := by
  intro run limit
  obtain ⟨trials, wait⟩ :=
    (Host.yielding os poll outcomes).awaitActive_waiting 0 poll.attempts.toNat []
  have inOrder : trials.map (·.answer) = (List.range' 1 trials.length).map outcomes := wait.inOrder
  have lastTry := wait.lastTry inOrder
  obtain ⟨_, within, final, before⟩ := Link.lastTry_iff.mp lastTry
  have settled := wait.settled inOrder
  rw [Nat.zero_add] at settled
  refine ⟨trials.length, lastTry, ?_, settled.active, settled.stopped, fun m => ?_⟩
  · have history := wait.history
    rw [inOrder, List.map_map] at history
    exact history
  · refine (settled.inactive m).trans (and_congr_right fun _ => ⟨fun returned => ?_, fun all => ?_⟩)
    · -- a last check that returned a code is the last there may be
      intro i positive few
      rcases Nat.lt_or_ge i trials.length with earlier | late
      · exact before i positive earlier
      · have whole : trials.length = limit := final.resolve_right (not_not_intro returned)
        rwa [show i = trials.length by omega]
    · exact all _ lastTry.1.1 within

end History

end Hostlink.Connector
