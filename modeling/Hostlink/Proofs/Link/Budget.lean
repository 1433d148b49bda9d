import Hostlink.Proofs.Link.Retry
import Mathlib.Order.Bounds.Basic

/-!
# How often something is tried

A budget bounds the number of attempts, and the last attempt is the first that is not to be
repeated, or else the last that the budget allows: `LastTry`. For a sequence of outcomes that is
known, this gives the number of attempts, the outcome that is answered, and all that happens, calls
and pauses, in order: `retry_attempts`.

Retrying counts its budget down. `counted` is the same loop with the number of the attempt counted
up in a word of 32 bits, which answers nothing where the word is full; it always answers, and the
same.
-/

namespace Hostlink.Link

/-- **The last of at most `limit` tries**, numbered from one: the first that is not to be repeated,
or the last that there may be. -/
def LastTry (limit : Nat) (again : Nat → Prop) (k : Nat) : Prop :=
  IsLeast {i | 1 ≤ i ∧ i ≤ limit ∧ (i = limit ∨ ¬ again i)} k

/-- It is the one before which every try was to be repeated. -/
theorem lastTry_iff {limit : Nat} {again : Nat → Prop} {k : Nat} :
    LastTry limit again k ↔
      1 ≤ k ∧ k ≤ limit ∧ (k = limit ∨ ¬ again k) ∧ ∀ i, 1 ≤ i → i < k → again i := by
  constructor
  · rintro ⟨⟨first, within, last⟩, least⟩
    refine ⟨first, within, last, fun i positive before => ?_⟩
    by_contra final
    have : k ≤ i := least ⟨positive, by omega, .inr final⟩
    omega
  · rintro ⟨first, within, last, before⟩
    refine ⟨⟨first, within, last⟩, ?_⟩
    rintro i ⟨positive, _, whole | final⟩
    · omega
    · by_contra earlier
      exact final (before i positive (by omega))

/-! ## A sequence of outcomes -/

/-- What happens while something is tried. -/
inductive Happening (δ : Type) where
  | called (number : Nat)
  | paused (delay : δ)

variable {δ σ α : Type}

/-- The number of a call. -/
def Happening.number? : Happening δ → Option Nat
  | .called number => some number
  | .paused _ => none

/-- The numbers of the calls so far. -/
def numbers (past : List (Happening δ)) : List Nat := past.filterMap (·.number?)

/-- An operation that comes to the next outcome of a sequence each time it is called. -/
def yielding (outcomes : Nat → Attempt α) : StateM (List (Happening δ)) (Attempt α) := fun past =>
  let number := (numbers past).length + 1
  (outcomes number, past ++ [.called number])

/-- Lets a delay pass. -/
def sleep (delay : δ) : StateM (List (Happening δ)) Unit := fun past =>
  ((), past ++ [.paused delay])

/-- The calls are numbered from one, without a gap. -/
def Numbered (past : List (Happening δ)) : Prop :=
  numbers past = List.range' 1 (numbers past).length

theorem numbered_yielding (outcomes : Nat → Attempt α) {past : List (Happening δ)}
    (h : Numbered past) : Numbered (yielding outcomes past).2 := by
  have next : numbers (yielding outcomes past).2 =
      numbers past ++ [(numbers past).length + 1] := List.filterMap_append
  rw [Numbered, next, List.length_append, List.length_singleton, List.range'_1_concat, ← h,
    Nat.add_comm 1]

theorem numbered_sleep (delay : δ) {past : List (Happening δ)} (h : Numbered past) :
    Numbered (sleep delay past).2 := by
  have same : numbers (sleep delay past).2 = numbers past :=
    List.filterMap_append.trans (List.append_nil _)
  rw [Numbered, same]
  exact h

/-- The attempts of a run over a sequence of outcomes are the first calls, and the last of them is
the last try. -/
theorem Tries.lastTry {outcomes : Nat → Attempt α} {budget : Nat} (tries : Tries outcomes budget)
    (inOrder : tries.all = List.range' 1 tries.all.length) :
    tries.last = tries.all.length ∧
      LastTry (max budget 1) (fun i => ∃ fault, outcomes i = .error fault ∧ fault.isRefused = true)
        tries.all.length := by
  rw [tries.length_all, List.range'_1_concat, Tries.all] at inOrder
  obtain ⟨earlier, last⟩ := List.append_inj' inOrder rfl
  have last : tries.last = tries.earlier.length + 1 := by
    rw [List.singleton_inj.mp last, Nat.add_comm]
  rw [tries.length_all]
  refine ⟨last, lastTry_iff.mpr ⟨Nat.le_add_left 1 _, tries.within, ?_, ?_⟩⟩
  · by_cases refused : ∃ fault, outcomes tries.last = .error fault ∧ fault.isRefused = true
    · obtain ⟨fault, failed, refusal⟩ := refused
      exact .inl (tries.spent fault failed refusal)
    · exact .inr (last ▸ refused)
  · intro i positive before
    have among : i ∈ tries.earlier := by
      rw [earlier, List.mem_range'_1]
      omega
    exact tries.refused i among

/-! ## The number of the attempt in a word -/

theorem toNat_next {n : UInt32} (room : n.toNat + 1 < UInt32.size) :
    (n + 1).toNat = n.toNat + 1 := by
  rw [UInt32.toNat_add]
  exact Nat.mod_eq_of_lt room

theorem toNat_max_one (n : UInt32) : (max n 1).toNat = max n.toNat 1 := by
  show (if n ≤ 1 then 1 else n).toNat = _
  split
  next few => exact (Nat.max_eq_right (UInt32.le_iff_toNat_le.mp few)).symm
  next many =>
    have := UInt32.lt_iff_toNat_lt.mp (UInt32.not_le.mp many)
    exact (Nat.max_eq_left (Nat.le_of_lt this)).symm

/-- Tries an operation and counts the attempts up in a word: nothing where the word is full. -/
def counted (pause : StateM σ Unit) (operation : StateM σ (Attempt α)) (attempts attempt : UInt32)
    (s : σ) : Option (Attempt α × σ) :=
  match operation s with
  | (.error fault, s) =>
    if fault.isRefused ∧ attempt < attempts then
      if attempt.toNat + 1 < UInt32.size then
        counted pause operation attempts (attempt + 1) (pause s).2
      else none
    else some (.error fault, s)
  | (.ok a, s) => some (.ok a, s)
termination_by attempts.toNat - attempt.toNat
decreasing_by
  rename_i more room
  have := UInt32.lt_iff_toNat_lt.mp more.2
  rw [toNat_next room]
  omega

variable {pause : StateM σ Unit} {operation : StateM σ (Attempt α)}

/-- **The word is never full**, and what it counts is what is left of the budget. By induction on
the attempts behind this one. -/
theorem counted_eq (attempts attempt : UInt32) (left : Nat)
    (h : attempt.toNat + left = attempts.toNat) (s : σ) :
    counted pause operation attempts attempt s = some (retry pause operation (left + 1) s) := by
  induction left generalizing attempt s with
  | zero =>
    have last : ¬ attempt < attempts := by
      rw [UInt32.lt_iff_toNat_lt]
      omega
    rw [counted, retry]
    rcases operation s with ⟨answer, s'⟩
    cases answer with
    | ok a => rfl
    | error fault => exact if_neg fun h => last h.2
  | succ left ih =>
    have more : attempt < attempts := by
      rw [UInt32.lt_iff_toNat_lt]
      omega
    -- the attempt that follows has a number, since this one is not yet the last
    have room : attempt.toNat + 1 < UInt32.size := by
      have : attempts.toNat < UInt32.size := attempts.toNat_lt
      omega
    have onward := ih (attempt + 1) (by rw [toNat_next room]; omega)
    rw [counted, retry]
    rcases run : operation s with ⟨answer, s'⟩
    cases answer with
    | ok a => simp only [run]
    | error fault =>
      cases refusal : fault.isRefused with
      | true =>
        simp only [run, refusal, more, room, and_self, if_true, onward]
        rfl
      | false => simp only [run, refusal, Bool.false_eq_true, false_and, if_false]

/-- A budget of nothing counts as one attempt. -/
theorem retry_max_one (budget : Nat) :
    retry pause operation (max budget 1) = retry pause operation budget := by
  cases budget with
  | zero => rfl
  | succ budget => rw [Nat.max_eq_left (Nat.le_add_left 1 budget)]

/-- **What retrying does, over any sequence of outcomes**, with any number of attempts to the
largest that a word holds, and any delay. The operation is called up to the last try, and what that
comes to is answered; between each two calls the delay passes once, and nowhere else. Counting the
attempts in a word gives the same, so the word never runs over. -/
theorem retry_attempts (delay : δ) (attempts : UInt32) (outcomes : Nat → Attempt α) :
    ∃ k, LastTry (max attempts.toNat 1)
        (fun i => ∃ fault, outcomes i = .error fault ∧ fault.isRefused = true) k ∧
      retry (sleep delay) (yielding outcomes) attempts.toNat [] =
        (outcomes k, [.paused delay].intercalate ((List.range' 1 k).map fun i => [.called i])) ∧
      counted (sleep delay) (yielding outcomes) (max attempts 1) 1 [] =
        some (retry (sleep delay) (yielding outcomes) attempts.toNat []) := by
  have call (past : List (Happening δ)) : ∃ i, (yielding outcomes past).1 = outcomes i ∧
      (yielding outcomes past).2 = past ++ [.called i] := ⟨_, rfl, rfl⟩
  have pause (past : List (Happening δ)) : (sleep delay past).2 = past ++ [.paused delay] := rfl
  obtain ⟨tries, answer, log⟩ := retry_tries (fun past => past) call pause attempts.toNat []
  rw [List.nil_append] at log
  have called : numbers (retry (sleep delay) (yielding outcomes) attempts.toNat []).2 =
      tries.all := by
    rw [log, numbers, Tries.filterMap_intercalate rfl, List.flatMap_map]
    exact List.flatMap_singleton' _
  have inOrder : tries.all = List.range' 1 tries.all.length := by
    have numbered := retry_keeps (R := fun s s' => Numbered s → Numbered s')
      (fun first second h => second (first h)) (fun _ => numbered_sleep delay)
      (fun _ => numbered_yielding outcomes) attempts.toNat [] rfl
    rw [Numbered, called] at numbered
    exact numbered
  obtain ⟨last, lastTry⟩ := tries.lastTry inOrder
  refine ⟨tries.all.length, lastTry, ?_, ?_⟩
  · refine Prod.ext (last ▸ answer) ?_
    rw [log, ← inOrder]
  · have limit : (1 : UInt32).toNat + (max attempts.toNat 1 - 1) = (max attempts 1).toNat := by
      rw [toNat_max_one]
      show 1 + (max attempts.toNat 1 - 1) = _
      omega
    rw [counted_eq _ _ _ limit, Nat.sub_add_cancel (Nat.le_max_right _ 1), retry_max_one]

end Hostlink.Link
