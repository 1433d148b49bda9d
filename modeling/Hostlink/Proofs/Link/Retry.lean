import Hostlink.Link.Retry

/-!
# What retrying does

`Tries` is the shape of a run of attempts: those before the last one were refused, there are never
more than the budget allows, and a refused attempt is the last one only where the budget is used up.
A run that goes on after any other failure, or that gives up early, cannot be built.

`retry_tries` says that retrying takes such a run. It is told over any operation whose attempts can
be read off a log: `sent` is what an attempt adds to the log, and `mark` what a pause does. Between
two attempts there is one mark and behind the last there is none, which is what `intercalate` says.
-/

namespace Hostlink.Link

/-- **A run of attempts** under a budget, where `outcome` says what each comes to. -/
structure Tries {τ α : Type} (outcome : τ → Attempt α) (budget : Nat) where
  /-- The attempts before the last one. -/
  earlier : List τ
  last : τ
  refused : ∀ t ∈ earlier, ∃ fault, outcome t = .error fault ∧ fault.isRefused = true
  within : earlier.length < max budget 1
  /-- Where the last attempt is refused too, no attempt was left. -/
  spent : ∀ fault, outcome last = .error fault → fault.isRefused = true →
    earlier.length + 1 = max budget 1

namespace Tries

variable {τ α : Type} {outcome : τ → Attempt α} {budget : Nat}

/-- All attempts, in order. -/
def all (tries : Tries outcome budget) : List τ := tries.earlier ++ [tries.last]

/-- A run of one attempt that leaves nothing to be tried again. -/
def single (t : τ)
    (final : ∀ fault, outcome t = .error fault → fault.isRefused = true → 1 = max budget 1) :
    Tries outcome budget where
  earlier := []
  last := t
  refused := fun _ h => (List.not_mem_nil h).elim
  within := Nat.lt_of_lt_of_le Nat.zero_lt_one (Nat.le_max_right budget 1)
  spent := final

/-- A refused attempt in front of a run, under a budget that is larger by one. -/
def again (t : τ) {fault : LinkFault} (failed : outcome t = .error fault)
    (refusal : fault.isRefused = true) (rest : Tries outcome (budget + 1)) :
    Tries outcome (budget + 2) where
  earlier := t :: rest.earlier
  last := rest.last
  refused := fun t' h => by
    rcases List.mem_cons.mp h with rfl | h
    · exact ⟨fault, failed, refusal⟩
    · exact rest.refused t' h
  within := by
    have := rest.within
    rw [List.length_cons]
    omega
  spent := fun fault' failed' refusal' => by
    have := rest.spent fault' failed' refusal'
    rw [List.length_cons]
    omega

theorem all_single (t : τ)
    (final : ∀ fault, outcome t = .error fault → fault.isRefused = true → 1 = max budget 1) :
    (single t final).all = [t] := rfl

theorem all_again (t : τ) {fault : LinkFault} (failed : outcome t = .error fault)
    (refusal : fault.isRefused = true) (rest : Tries outcome (budget + 1)) :
    (again t failed refusal rest).all = t :: rest.all := rfl

theorem length_all (tries : Tries outcome budget) :
    tries.all.length = tries.earlier.length + 1 := by
  rw [all, List.length_append, List.length_singleton]

/-- There is an attempt, and no more than the budget allows. -/
theorem length_bounds (tries : Tries outcome budget) :
    1 ≤ tries.all.length ∧ tries.all.length ≤ max budget 1 := by
  rw [length_all]
  exact ⟨Nat.le_add_left 1 _, tries.within⟩

section Log

variable {ε β : Type} {f : ε → Option β} {mark : ε}

theorem filterMap_intercalate (silent : f mark = none) (parts : List (List ε)) :
    ([mark].intercalate parts).filterMap f = parts.flatMap (·.filterMap f) := by
  induction parts with
  | nil => rfl
  | cons part parts ih =>
    cases parts with
    | nil => rw [List.intercalate_singleton, List.flatMap_singleton]
    | cons next parts =>
      rw [List.intercalate_cons_cons, List.filterMap_append, List.filterMap_append,
        List.filterMap_cons_none silent, List.filterMap_nil, List.append_nil, ih]
      rfl

/-- **What only the last attempt logs** is in the log of a run once. -/
theorem filterMap_log (tries : Tries outcome budget) {sent : τ → List ε} (silent : f mark = none)
    (none : ∀ t ∈ tries.earlier, (sent t).filterMap f = []) :
    ([mark].intercalate (tries.all.map sent)).filterMap f = (sent tries.last).filterMap f := by
  have earlier : tries.earlier.flatMap (fun t => (sent t).filterMap f) = [] :=
    List.flatMap_eq_nil_iff.mpr none
  rw [filterMap_intercalate silent, all, List.map_append, List.flatMap_append, List.flatMap_map,
    earlier, List.nil_append, List.map_singleton, List.flatMap_singleton]

end Log

end Tries

section Retry

variable {σ τ α ε : Type} {pause : StateM σ Unit} {operation : StateM σ (Attempt α)}

/-- An attempt that is not refused is the last one, whatever the budget. -/
theorem retry_of_final {s : σ}
    (final : ∀ fault, (operation s).1 = .error fault → fault.isRefused = false) (budget : Nat) :
    retry pause operation budget s = operation s := by
  cases budget with
  | zero => rfl
  | succ budget =>
    cases budget with
    | zero => rfl
    | succ budget =>
      unfold retry
      rcases run : operation s with ⟨answer, s'⟩
      rw [run] at final
      cases answer with
      | ok a => rfl
      | error fault => simp only [final fault rfl, Bool.false_eq_true, if_false]

/-- A refused attempt is followed by a pause and by what the rest of the budget brings. -/
theorem retry_of_refused (pause : StateM σ Unit) {s : σ} {fault : LinkFault}
    (failed : (operation s).1 = .error fault) (refusal : fault.isRefused = true) (budget : Nat) :
    retry pause operation (budget + 2) s =
      retry pause operation (budget + 1) (pause (operation s).2).2 := by
  rw [retry]
  rcases run : operation s with ⟨answer, s'⟩
  rw [run] at failed
  cases failed
  simp only [run, refusal, if_true]
  rfl

/-- **What every attempt and every pause keeps, retrying keeps.** By induction on the budget. -/
theorem retry_keeps {R : σ → σ → Prop} (trans : ∀ {s s' s''}, R s s' → R s' s'' → R s s'')
    (pauses : ∀ s, R s (pause s).2) (attempts : ∀ s, R s (operation s).2) (budget : Nat) (s : σ) :
    R s (retry pause operation budget s).2 := by
  induction budget generalizing s with
  | zero => exact attempts s
  | succ budget ih =>
    cases budget with
    | zero => exact attempts s
    | succ budget =>
      by_cases again : ∃ fault, (operation s).1 = .error fault ∧ fault.isRefused = true
      · obtain ⟨fault, failed, refusal⟩ := again
        rw [retry_of_refused pause failed refusal]
        exact trans (attempts s) (trans (pauses _) (ih _))
      · rw [retry_of_final]
        · exact attempts s
        · intro fault failed
          exact Bool.eq_false_iff.mpr fun refusal => again ⟨fault, failed, refusal⟩

variable {outcome : τ → Attempt α} {sent : τ → List ε} {mark : ε}

/-- **Retrying takes a run of attempts**, answers what the last one came to, and logs a mark between
each two and nowhere else. By induction on the budget; each attempt is one case of the operation. -/
theorem retry_tries (log : σ → List ε)
    (attempt : ∀ s, ∃ t, (operation s).1 = outcome t ∧ log (operation s).2 = log s ++ sent t)
    (marked : ∀ s, log (pause s).2 = log s ++ [mark]) (budget : Nat) (s : σ) :
    ∃ tries : Tries outcome budget,
      (retry pause operation budget s).1 = outcome tries.last ∧
      log (retry pause operation budget s).2 =
        log s ++ [mark].intercalate (tries.all.map sent) := by
  -- a run that ends with its first attempt is that attempt
  have ends : ∀ budget s t, (operation s).1 = outcome t → log (operation s).2 = log s ++ sent t →
      retry pause operation budget s = operation s →
      (∀ fault, outcome t = .error fault → fault.isRefused = true → 1 = max budget 1) →
      ∃ tries : Tries outcome budget,
        (retry pause operation budget s).1 = outcome tries.last ∧
        log (retry pause operation budget s).2 =
          log s ++ [mark].intercalate (tries.all.map sent) := by
    intro budget s t answer logged same final
    refine ⟨.single t final, same ▸ answer, ?_⟩
    rw [same, logged, Tries.all_single, List.map_singleton, List.intercalate_singleton]
  induction budget generalizing s with
  | zero =>
    obtain ⟨t, answer, logged⟩ := attempt s
    exact ends 0 s t answer logged rfl fun _ _ _ => rfl
  | succ budget ih =>
    obtain ⟨t, answer, logged⟩ := attempt s
    cases budget with
    | zero => exact ends 1 s t answer logged rfl fun _ _ _ => rfl
    | succ budget =>
      by_cases again : ∃ fault, outcome t = .error fault ∧ fault.isRefused = true
      · obtain ⟨fault, failed, refusal⟩ := again
        have onward := retry_of_refused pause (answer.trans failed) refusal budget
        obtain ⟨rest, answer', logged'⟩ := ih (pause (operation s).2).2
        refine ⟨.again t failed refusal rest, onward ▸ answer', ?_⟩
        have more : rest.all.map sent ≠ [] := by
          rw [Tries.all, List.map_append]
          exact List.append_ne_nil_of_right_ne_nil _ (List.cons_ne_nil _ _)
        rw [onward, logged', marked, logged, Tries.all_again, List.map_cons,
          List.intercalate_cons_of_ne_nil more]
        simp only [List.append_assoc]
      · have final : ∀ fault, outcome t = .error fault → fault.isRefused = false := by
          intro fault failed
          exact Bool.eq_false_iff.mpr fun refusal => again ⟨fault, failed, refusal⟩
        refine ends _ s t answer logged (retry_of_final ?_ _) fun fault failed refusal => ?_
        · exact fun fault failed => final fault (answer.symm.trans failed)
        · exact absurd ⟨fault, failed, refusal⟩ again

end Retry

end Hostlink.Link
