import Hostlink.Fault
import Mathlib.Logic.Relation

/-!
# What lies behind a fault

A failure of a link may have a system failure as its source, and a system failure may carry another,
either as it is or inside a failure of a link. These are single steps, and there is one at most from
each failure; what lies behind a failure is what steps one after another lead to. Refusal is then one
of the failures behind having the kind of a refused connection: `LinkFault.isRefused_iff`.

The failures without a step are leaves: what they know of a cause is its wording.
-/

namespace Hostlink

/-- The system failure that is the source of a failure of a link. -/
inductive LinkFault.Source : LinkFault → IoFault → Prop
  | dialFailed (address : String) (cause : IoFault) : Source (.dialFailed address cause) cause
  | http (endpoint : String) (layers : List String) (root : IoFault) :
      Source (.http endpoint layers (some root)) root
  | certificateUnreadable (cause : IoFault) : Source (.certificateUnreadable cause) cause
  | keyUnreadable (path : String) (cause : IoFault) : Source (.keyUnreadable path cause) cause
  | io (cause : IoFault) : Source (.io cause) cause

/-- The system failure that a system failure carries. -/
inductive IoFault.Carries : IoFault → IoFault → Prop
  | io (kind : IoKind) (inner : IoFault) : Carries (.custom kind (.io inner)) inner
  | link (kind : IoKind) {fault : LinkFault} {inner : IoFault} (h : fault.Source inner) :
      Carries (.custom kind (.link fault)) inner

/-- **A refused connection is reached** from a system failure. -/
def IoFault.LeadsToRefusal (f : IoFault) : Prop :=
  ∃ cause, Relation.ReflTransGen Carries f cause ∧ cause.kindOf = .connectionRefused

/-- **A refused connection lies behind** a failure of a link. -/
def LinkFault.LeadsToRefusal (f : LinkFault) : Prop :=
  ∃ source, f.Source source ∧ source.LeadsToRefusal

/-- A refused connection is reached at once, or over what is carried. -/
theorem IoFault.leadsToRefusal_iff (f : IoFault) :
    f.LeadsToRefusal ↔
      f.kindOf = .connectionRefused ∨ ∃ inner, f.Carries inner ∧ inner.LeadsToRefusal := by
  constructor
  · rintro ⟨cause, reached, refused⟩
    rcases reached.cases_head with rfl | ⟨inner, carries, onward⟩
    · exact .inl refused
    · exact .inr ⟨inner, carries, cause, onward, refused⟩
  · rintro (refused | ⟨inner, carries, cause, reached, refused⟩)
    · exact ⟨f, .refl, refused⟩
    · exact ⟨cause, .head carries reached, refused⟩

/-- A failure has one source at most, so the source decides. -/
theorem LinkFault.leadsToRefusal_of_source {f : LinkFault} {source : IoFault}
    (h : f.Source source) : f.LeadsToRefusal ↔ source.LeadsToRefusal := by
  constructor
  · rintro ⟨other, h', refused⟩
    cases h <;> cases h' <;> exact refused
  · intro refused
    exact ⟨source, h, refused⟩

mutual

/-- A system failure is refused if it has the kind or if its payload is. By recursion along what is
carried, together with the two lemmas that follow. -/
theorem IoFault.isRefused_iff (f : IoFault) : f.isRefused = true ↔ f.LeadsToRefusal := by
  rw [f.leadsToRefusal_iff]
  cases f with
  | code n =>
    simp only [IoFault.isRefused, decide_eq_true_eq, IoFault.kindOf]
    refine (or_iff_left ?_).symm
    rintro ⟨_, ⟨⟩, _⟩
  | kind k =>
    simp only [IoFault.isRefused, decide_eq_true_eq, IoFault.kindOf]
    refine (or_iff_left ?_).symm
    rintro ⟨_, ⟨⟩, _⟩
  | custom k payload =>
    simp only [IoFault.isRefused, Bool.or_eq_true, decide_eq_true_eq, IoFault.kindOf,
      payload.isRefused_iff k]

/-- A payload is refused if what it brings along is. -/
theorem IoPayload.isRefused_iff (p : IoPayload) (k : IoKind) :
    p.isRefused = true ↔ ∃ inner, (IoFault.custom k p).Carries inner ∧ inner.LeadsToRefusal := by
  cases p with
  | text message =>
    refine iff_of_false Bool.false_ne_true ?_
    rintro ⟨_, ⟨⟩, _⟩
  | ssh message =>
    refine iff_of_false Bool.false_ne_true ?_
    rintro ⟨_, ⟨⟩, _⟩
  | io inner =>
    rw [IoPayload.isRefused, inner.isRefused_iff]
    constructor
    · intro h
      exact ⟨inner, .io k inner, h⟩
    · rintro ⟨_, carries, h⟩
      cases carries
      exact h
  | link fault =>
    rw [IoPayload.isRefused, fault.isRefused_iff]
    constructor
    · rintro ⟨inner, source, h⟩
      exact ⟨inner, .link k source, h⟩
    · rintro ⟨inner, carries, h⟩
      cases carries with
      | link _ source => exact ⟨inner, source, h⟩

/-- **A failure of a link is refused exactly if a refused connection lies behind it.** -/
theorem LinkFault.isRefused_iff (f : LinkFault) : f.isRefused = true ↔ f.LeadsToRefusal := by
  cases f with
  | dialFailed address cause =>
    rw [LinkFault.isRefused, LinkFault.leadsToRefusal_of_source (.dialFailed address cause)]
    exact cause.isRefused_iff
  | http endpoint layers root =>
    cases root with
    | none =>
      refine iff_of_false Bool.false_ne_true ?_
      rintro ⟨_, ⟨⟩, _⟩
    | some root =>
      rw [LinkFault.isRefused, LinkFault.leadsToRefusal_of_source (.http endpoint layers root)]
      exact root.isRefused_iff
  | certificateUnreadable cause =>
    rw [LinkFault.isRefused, LinkFault.leadsToRefusal_of_source (.certificateUnreadable cause)]
    exact cause.isRefused_iff
  | keyUnreadable path cause =>
    rw [LinkFault.isRefused, LinkFault.leadsToRefusal_of_source (.keyUnreadable path cause)]
    exact cause.isRefused_iff
  | io cause =>
    rw [LinkFault.isRefused, LinkFault.leadsToRefusal_of_source (.io cause)]
    exact cause.isRefused_iff
  | timedOut | authentication | shellCreation | notConnected | invalidMove | commandFailed
  | execution | missingCredentials | encoding | configuration | ssh =>
    refine iff_of_false Bool.false_ne_true ?_
    rintro ⟨_, ⟨⟩, _⟩

end

end Hostlink
