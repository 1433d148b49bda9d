import Hostlink.Proofs.Link.Retry
import Hostlink.WinRm.Connection

/-!
# A wire goes on

Whatever a connection does, the turns still to come are among those that there were, the endpoint's
ending stays the same, and what is logged on top are exchanges in such turns, and pauses. So what
holds of every turn that a wire begins with, and of its ending, holds of every exchange on it.

`Wire.Onward` relates a wire to a later one. Programs of which it holds are put together by
`Wire.Onwards.bind`, and everything that a connection does is put together in this way.
-/

namespace Hostlink.WinRm

namespace Wire

/-- **From a wire to a later one.** -/
structure Onward (w w' : Wire) : Prop where
  ending : w'.ending = w.ending
  turns : w'.turns ⊆ w.turns
  events : ∃ news, w'.events = w.events ++ news ∧
    ∀ e, Event.exchange e ∈ news → e.turn ∈ w.turns ∨ e.turn = w.ending.turn

theorem Onward.refl (w : Wire) : w.Onward w := by
  refine ⟨rfl, List.Subset.refl _, [], (List.append_nil _).symm, ?_⟩
  intro e among
  exact absurd among List.not_mem_nil

theorem Onward.trans {w₁ w₂ w₃ : Wire} (h : w₁.Onward w₂) (h' : w₂.Onward w₃) : w₁.Onward w₃ := by
  obtain ⟨news, events, drawn⟩ := h.events
  obtain ⟨news', events', drawn'⟩ := h'.events
  refine ⟨h'.ending.trans h.ending, List.Subset.trans h'.turns h.turns, news ++ news', ?_, ?_⟩
  · rw [events', events, List.append_assoc]
  · intro e among
    rcases List.mem_append.mp among with among | among
    · exact drawn e among
    · rw [← h.ending]
      exact (drawn' e among).imp_left (@h.turns e.turn)

/-- A program goes on. -/
def Onwards {α : Type} (act : StateM Wire α) : Prop := ∀ w : Wire, w.Onward (act w).2

theorem Onwards.pure {α : Type} (a : α) : Onwards (Pure.pure a) := Onward.refl

theorem Onwards.bind {α β : Type} {act : StateM Wire α} {next : α → StateM Wire β}
    (first : Onwards act) (second : ∀ a, Onwards (next a)) : Onwards (act >>= next) := by
  intro w
  exact (first w).trans (second (act w).1 (act w).2)

/-! ## What a wire does -/

theorem onwards_exchange (endpoint : String) (request : Request) :
    Onwards (exchange endpoint request) := by
  intro w
  cases turns : w.turns with
  | nil =>
    refine ⟨rfl, ?_, [.exchange ⟨endpoint, request, w.ending.turn⟩], ?_, ?_⟩
    · simp only [exchange, turns, List.nil_subset]
    · simp only [exchange, turns]
    · intro e among
      cases List.mem_singleton.mp among
      exact .inr rfl
  | cons turn rest =>
    refine ⟨rfl, ?_, [.exchange ⟨endpoint, request, turn⟩], ?_, ?_⟩
    · simp only [exchange, turns]
      exact List.subset_cons_self turn rest
    · simp only [exchange, turns]
    · intro e among
      cases List.mem_singleton.mp among
      exact .inl (turns ▸ List.mem_cons_self)

theorem onwards_call (endpoint : String) (request : Request) : Onwards (call endpoint request) := by
  apply (onwards_exchange endpoint request).bind
  intro turn
  exact .pure _

theorem onwards_pause (seconds : Nat) : Onwards (pause seconds) := by
  intro w
  refine ⟨rfl, List.Subset.refl _, [.pause seconds], rfl, ?_⟩
  intro e among
  cases List.mem_singleton.mp among

theorem onwards_drain (endpoint shell id : String) : Onwards (drain endpoint shell id) := by
  intro w
  refine ⟨rfl, List.drop_subset _ _, _, rfl, ?_⟩
  intro e among
  obtain ⟨turn, taken, same⟩ := List.mem_map.mp among
  cases same
  exact (List.mem_append.mp (List.mem_of_mem_take taken)).imp_right List.mem_singleton.mp

theorem onwards_retry {α : Type} {wait : StateM Wire Unit} {act : StateM Wire (Attempt α)}
    (waits : Onwards wait) (acts : Onwards act) (attempts : Nat) :
    Onwards (Link.retry wait act attempts) := by
  intro w
  exact Link.retry_keeps (R := Onward) Onward.trans waits acts attempts w

end Wire

/-! ## What a session does -/

open Wire

namespace Session

variable (s : Session)

theorem onwards_execute (line : String) : Onwards (s.execute line) := by
  apply (onwards_call s.endpoint (.command s.shell line)).bind
  intro answer
  cases answer with
  | error fault => exact .pure _
  | ok reply =>
    dsimp only
    cases commandId reply with
    | error fault => exact .pure _
    | ok id =>
      apply (onwards_drain s.endpoint s.shell id).bind
      intro outcome
      apply (onwards_call s.endpoint (.signal s.shell id)).bind
      intro ended
      exact .pure _

theorem onwards_executeStep (line : String) : Onwards (s.executeStep line) := by
  apply (s.onwards_execute line).bind
  intro answer
  cases answer with
  | error fault => exact .pure _
  | ok outcome => exact .pure _

theorem onwards_executeSteps (lines : List String) : Onwards (s.executeSteps lines) := by
  induction lines with
  | nil => exact .pure _
  | cons line lines ih =>
    apply (s.onwards_executeStep line).bind
    intro answer
    cases answer with
    | error fault => exact .pure _
    | ok outcome => exact ih

theorem onwards_fillAndRun (script : StagedScript) : Onwards (s.fillAndRun script) := by
  apply (s.onwards_executeSteps script.appendLines).bind
  intro answer
  cases answer with
  | error fault => exact .pure _
  | ok _ => exact s.onwards_execute script.runLine

theorem onwards_carryOut (plan : Plan) : Onwards (s.carryOut plan) := by
  cases plan with
  | single line => exact s.onwards_execute line
  | staged script =>
    apply (s.onwards_executeStep StagedScript.ensureDirLine).bind
    intro ensured
    cases ensured with
    | error fault => exact .pure _
    | ok _ =>
      apply (s.onwards_executeStep script.createLine).bind
      intro created
      cases created with
      | error fault => exact .pure _
      | ok _ =>
        apply (s.onwards_fillAndRun script).bind
        intro outcome
        apply (s.onwards_executeStep script.cleanupLine).bind
        intro deleted
        exact .pure _

theorem onwards_run (id : String) (command : Command) : Onwards (s.run id command) := by
  apply (s.onwards_carryOut (.ofCommand id command)).bind
  intro answer
  cases answer with
  | error fault => exact .pure _
  | ok outcome => exact .pure _

theorem onwards_close : Onwards s.close := by
  apply (onwards_call s.endpoint (.delete s.shell)).bind
  intro answer
  cases answer with
  | error fault => exact .pure _
  | ok reply => exact .pure _

theorem onwards_open (station : Station) (t : Target) (login : Login) :
    Onwards (Session.open station t login) := by
  have creates : Onwards (createShell t.endpoint) := by
    apply (onwards_call t.endpoint .create).bind
    intro answer
    cases answer with
    | error fault => exact .pure _
    | ok reply => exact .pure _
  unfold Session.open
  cases checkCertificate station t with
  | error fault => exact .pure _
  | ok _ =>
    apply (onwards_retry (onwards_pause t.pause.toNat) creates t.retryAttempts).bind
    intro answer
    cases answer with
    | error fault => exact .pure _
    | ok shell => exact .pure _

end Session

/-! ## What a connection does -/

namespace Connection

variable (c : Connection)

theorem onwards_connect (station : Station) (t : Target) : Onwards (c.connect station t) := by
  unfold connect
  cases c.phase.hasSession with
  | true => exact .pure _
  | false =>
    simp only [Bool.false_eq_true, if_false]
    cases Login.ofTarget t with
    | error fault => exact .pure _
    | ok login =>
      apply (Session.onwards_open station t login).bind
      intro answer
      cases answer with
      | error fault => exact .pure _
      | ok session => exact .pure _

theorem onwards_disconnect : Onwards c.disconnect := by
  unfold disconnect
  cases c.phase.hasSession with
  | false => exact .pure _
  | true =>
    simp only [if_true]
    cases c.session with
    | none => exact .pure _
    | some session =>
      apply session.onwards_close.bind
      intro closed
      exact .pure _

theorem onwards_run (id : String) (command : Command) : Onwards (c.run id command) := by
  unfold run
  cases c.phase.ensureRunnable with
  | error fault => exact .pure _
  | ok _ =>
    cases c.session with
    | none => exact .pure _
    | some session => exact session.onwards_run id command

end Connection

end Hostlink.WinRm
