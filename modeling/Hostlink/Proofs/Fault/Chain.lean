import Hostlink.Failure
import Hostlink.Proofs.Fault.Refusal

/-!
# The walk along a chain of failures

There are two ways on from a failure: to its source, and, from a system failure, to what it carries.
A system failure names as its source the source of what it carries, and so skips one. `Leads` is a
step either way, and what can be reached is what such steps lead to.

The walk takes one way only: to what is carried where there is something, to the source elsewhere.
It stops at the first refused connection. Still it passes by nothing that can be reached: a step
over a source is made up for by the steps from what is carried (`reaches_of_leads`). So its answer,
`isRefused`, says whether a refused connection can be reached at all: `isRefused_exact`.

A text and a failure of the SSH library lead nowhere, and neither does a failure of a link that
knows its cause by wording.
-/

namespace Hostlink

namespace IoPayload

/-- A refused connection. -/
def Refused (p : IoPayload) : Prop := ∃ f : IoFault, p = .io f ∧ f.kindOf = .connectionRefused

/-- What a system failure carries. -/
inductive Carries : IoPayload → IoPayload → Prop
  | custom (kind : IoKind) (p : IoPayload) : Carries (.io (.custom kind p)) p

/-- The source that a failure names. For a system failure that is the source of what it carries. -/
inductive Source : IoPayload → IoPayload → Prop
  | link {fault : LinkFault} {cause : IoFault} (h : fault.Source cause) :
      Source (.link fault) (.io cause)
  | custom (kind : IoKind) {p q : IoPayload} (h : p.Source q) : Source (.io (.custom kind p)) q

/-- One failure leads to another, over a source or over what is carried. -/
def Leads (p q : IoPayload) : Prop := p.Source q ∨ p.Carries q

/-- Zero or more steps. -/
abbrev Reaches : IoPayload → IoPayload → Prop := Relation.ReflTransGen Leads

/-- Where the walk goes on: to what is carried, or else to the source. -/
def Onward (p q : IoPayload) : Prop := p.Carries q ∨ (∀ r, ¬ p.Carries r) ∧ p.Source q

/-- The walk from a failure comes to an end, with an answer. -/
inductive Walks : IoPayload → Bool → Prop
  | refused {p : IoPayload} (h : p.Refused) : Walks p true
  | onward {p q : IoPayload} {answer : Bool} (h : ¬ p.Refused) (step : p.Onward q)
      (rest : q.Walks answer) : Walks p answer
  | ended {p : IoPayload} (h : ¬ p.Refused) (last : ∀ q, ¬ p.Onward q) : Walks p false

/-- A failure inside others of other kinds: any number of system failures that carry it, themselves
inside failures of a link or not. -/
inductive Inside (p : IoPayload) : IoPayload → Prop
  | bare : Inside p p
  | custom {q : IoPayload} (h : Inside p q) {kind : IoKind} (other : kind ≠ .connectionRefused) :
      Inside p (.io (.custom kind q))
  | io {f : IoFault} (h : Inside p (.io f)) : Inside p (.link (.io f))

/-! ## Single steps -/

theorem onward_custom {kind : IoKind} {p q : IoPayload} :
    (IoPayload.io (.custom kind p)).Onward q ↔ q = p := by
  constructor
  · rintro (carried | ⟨nothing, _⟩)
    · cases carried
      rfl
    · exact absurd (Carries.custom kind p) (nothing p)
  · rintro rfl
    exact .inl (.custom kind q)

theorem onward_link {f : LinkFault} {q : IoPayload} :
    (IoPayload.link f).Onward q ↔ ∃ cause, q = .io cause ∧ f.Source cause := by
  constructor
  · rintro (carried | ⟨_, source⟩)
    · cases carried
    · cases source with
      | link h => exact ⟨_, rfl, h⟩
  · rintro ⟨cause, rfl, h⟩
    refine .inr ⟨fun r carried => ?_, .link h⟩
    cases carried

theorem not_leads_text (message : String) (q : IoPayload) : ¬ (IoPayload.text message).Leads q := by
  rintro (source | carried)
  · cases source
  · cases carried

theorem not_leads_ssh (message : String) (q : IoPayload) : ¬ (IoPayload.ssh message).Leads q := by
  rintro (source | carried)
  · cases source
  · cases carried

/-- A step of the walk is a step. -/
theorem leads_of_onward {p q : IoPayload} (h : p.Onward q) : p.Leads q := by
  rcases h with carried | ⟨_, source⟩
  · exact .inr carried
  · exact .inl source

/-- **The walk passes by nothing**: what one step leads to can be reached from where the walk goes
on. -/
theorem reaches_of_leads {p q : IoPayload} (h : p.Leads q) : ∃ r, p.Onward r ∧ r.Reaches q := by
  rcases h with source | carried
  · cases source with
    | link h => exact ⟨_, onward_link.mpr ⟨_, rfl, h⟩, .refl⟩
    | custom kind h => exact ⟨_, onward_custom.mpr rfl, .single (.inl h)⟩
  · exact ⟨q, .inl carried, .refl⟩

theorem sizeOf_lt_of_source {f : LinkFault} {cause : IoFault} (h : f.Source cause) :
    sizeOf cause < sizeOf f := by
  cases h with
  | dialFailed =>
    rw [LinkFault.dialFailed.sizeOf_spec]
    omega
  | http =>
    rw [LinkFault.http.sizeOf_spec, Option.some.sizeOf_spec]
    omega
  | certificateUnreadable =>
    rw [LinkFault.certificateUnreadable.sizeOf_spec]
    omega
  | keyUnreadable =>
    rw [LinkFault.keyUnreadable.sizeOf_spec]
    omega
  | io =>
    rw [LinkFault.io.sizeOf_spec]
    omega

/-- **The walk does not go on for ever**: it goes from a failure to a part of it. -/
theorem wellFounded_onward : WellFounded fun q p : IoPayload => p.Onward q := by
  refine Subrelation.wf (fun {q p} h => ?_) (measure (sizeOf : IoPayload → Nat)).wf
  show sizeOf q < sizeOf p
  rcases h with carried | ⟨nothing, source⟩
  · cases carried with
    | custom kind p =>
      rw [IoPayload.io.sizeOf_spec, IoFault.custom.sizeOf_spec]
      omega
  · cases source with
    | link h =>
      rw [IoPayload.link.sizeOf_spec, IoPayload.io.sizeOf_spec]
      exact Nat.add_lt_add_left (sizeOf_lt_of_source h) 1
    | custom kind h => exact absurd (Carries.custom kind _) (nothing _)

/-! ## The answer of the walk -/

theorem isRefused_of_refused {p : IoPayload} (h : p.Refused) : p.isRefused = true := by
  obtain ⟨f, rfl, kind⟩ := h
  cases f with
  | code n => exact decide_eq_true kind
  | kind k => exact decide_eq_true kind
  | custom k payload => exact Bool.or_eq_true_iff.mpr (.inl (decide_eq_true kind))

/-- A system failure of another kind gives the answer of what it carries. -/
theorem isRefused_custom {kind : IoKind} (other : kind ≠ .connectionRefused) (p : IoPayload) :
    (IoPayload.io (.custom kind p)).isRefused = p.isRefused := by
  show (decide (kind = .connectionRefused) || p.isRefused) = p.isRefused
  rw [decide_eq_false other, Bool.false_or]

theorem isRefused_of_source {f : LinkFault} {cause : IoFault} (h : f.Source cause) :
    f.isRefused = cause.isRefused := by
  cases h <;> rfl

/-- Past a failure of another kind the answer is that of where the walk goes. -/
theorem isRefused_of_onward {p q : IoPayload} (h : ¬ p.Refused) (step : p.Onward q) :
    p.isRefused = q.isRefused := by
  cases p with
  | text message => exact absurd (leads_of_onward step) (not_leads_text message q)
  | ssh message => exact absurd (leads_of_onward step) (not_leads_ssh message q)
  | link f =>
    obtain ⟨cause, rfl, source⟩ := onward_link.mp step
    exact isRefused_of_source source
  | io f =>
    have other : f.kindOf ≠ .connectionRefused := fun kind => h ⟨f, rfl, kind⟩
    cases f with
    | code n => rcases leads_of_onward step with source | carried <;> contradiction
    | kind k => rcases leads_of_onward step with source | carried <;> contradiction
    | custom k payload =>
      rw [onward_custom.mp step]
      exact isRefused_custom other payload

/-- Where the walk is over, nothing was refused. -/
theorem isRefused_of_ended {p : IoPayload} (h : ¬ p.Refused) (last : ∀ q, ¬ p.Onward q) :
    p.isRefused = false := by
  cases p with
  | text message => rfl
  | ssh message => rfl
  | link f =>
    rw [← Bool.not_eq_true]
    intro refused
    obtain ⟨cause, source, _⟩ := f.isRefused_iff.mp refused
    exact last _ (onward_link.mpr ⟨cause, rfl, source⟩)
  | io f =>
    have other : f.kindOf ≠ .connectionRefused := fun kind => h ⟨f, rfl, kind⟩
    cases f with
    | code n => exact decide_eq_false other
    | kind k => exact decide_eq_false other
    | custom k payload => exact absurd (onward_custom.mpr rfl) (last payload)

/-- **The walk comes to an end, and to `isRefused`.** By induction along the walk. -/
theorem walks_isRefused (p : IoPayload) : p.Walks p.isRefused := by
  induction p using wellFounded_onward.induction with
  | _ p ih =>
    by_cases refused : p.Refused
    · rw [isRefused_of_refused refused]
      exact .refused refused
    · by_cases further : ∃ q, p.Onward q
      · obtain ⟨q, step⟩ := further
        rw [isRefused_of_onward refused step]
        exact .onward refused step (ih q step)
      · have last : ∀ q, ¬ p.Onward q := not_exists.mp further
        rw [isRefused_of_ended refused last]
        exact .ended refused last

/-- It comes to no other answer. -/
theorem Walks.eq_isRefused {p : IoPayload} {answer : Bool} (h : p.Walks answer) :
    answer = p.isRefused := by
  induction h with
  | refused h => exact (isRefused_of_refused h).symm
  | onward h step _ ih => exact ih.trans (isRefused_of_onward h step).symm
  | ended h last => exact (isRefused_of_ended h last).symm

/-- A walk that comes to a refused connection has reached it. -/
theorem Walks.reaches {p : IoPayload} {answer : Bool} (h : p.Walks answer)
    (found : answer = true) : ∃ q, p.Reaches q ∧ q.Refused := by
  induction h with
  | @refused p h => exact ⟨p, .refl, h⟩
  | onward h step _ ih =>
    obtain ⟨q, reached, refused⟩ := ih found
    exact ⟨q, .head (leads_of_onward step) reached, refused⟩
  | ended => cases found

/-- A refused connection that can be reached is found. By induction along the walk, since what lies
behind a failure lies behind where the walk goes. -/
theorem isRefused_of_reaches {p q : IoPayload} (reached : p.Reaches q) (h : q.Refused) :
    p.isRefused = true := by
  induction p using wellFounded_onward.induction with
  | _ p ih =>
    by_cases refused : p.Refused
    · exact isRefused_of_refused refused
    · rcases reached.cases_head with rfl | ⟨r, leads, rest⟩
      · exact isRefused_of_refused h
      · obtain ⟨s, step, between⟩ := reaches_of_leads leads
        rw [isRefused_of_onward refused step]
        exact ih s step (between.trans rest)

theorem isRefused_iff_reaches (p : IoPayload) :
    p.isRefused = true ↔
      ∃ cause : IoFault, p.Reaches (.io cause) ∧ cause.kindOf = .connectionRefused := by
  constructor
  · intro found
    obtain ⟨_, reached, cause, rfl, kind⟩ := p.walks_isRefused.reaches found
    exact ⟨cause, reached, kind⟩
  · rintro ⟨cause, reached, kind⟩
    exact isRefused_of_reaches reached ⟨cause, rfl, kind⟩

/-- What is wrapped around a failure does not count. -/
theorem Inside.isRefused_eq {p q : IoPayload} (h : p.Inside q) : q.isRefused = p.isRefused := by
  induction h with
  | bare => rfl
  | custom _ other ih => exact (isRefused_custom other _).trans ih
  | io h ih => exact ih

end IoPayload

/-- **Causes are enough**: a refused connection that can be reached at all lies behind a failure
along the causes alone. -/
theorem LinkFault.leadsToRefusal_iff_reaches (f : LinkFault) :
    f.LeadsToRefusal ↔ ∃ cause : IoFault,
      (IoPayload.link f).Reaches (.io cause) ∧ cause.kindOf = .connectionRefused :=
  f.isRefused_iff.symm.trans (IoPayload.link f).isRefused_iff_reaches

namespace Failure

theorem isRefused_eq_false {failure : Failure}
    (other : ∀ f, failure ≠ .link f ∧ failure ≠ .connector (.link f)) :
    failure.isRefused = false := by
  cases failure with
  | link f => exact absurd rfl (other f).1
  | fileUnreadable path cause => rfl
  | connector fault =>
    cases fault with
    | link f => exact absurd rfl (other f).2
    | unknownOs | inactive | unreadableConfig | missingId => rfl

/-- **Refusal is found exactly where it is.** From any failure of a link, however its causes are
nested, the walk comes to an end, with one answer. It is yes exactly if a system failure with the
kind of a refused connection can be reached over sources and over what is carried; texts and
failures of the SSH library lead nowhere. System failures of other kinds around something, as many
as there are, leave its answer as it is. A failure of a link gives its own answer above the link and
above the connector, and no other failure is a refusal. -/
theorem isRefused_exact :
    (∀ (f : LinkFault) (answer : Bool), (IoPayload.link f).Walks answer ↔ answer = f.isRefused) ∧
      (∀ f : LinkFault, f.isRefused = true ↔ ∃ cause : IoFault,
        (IoPayload.link f).Reaches (.io cause) ∧ cause.kindOf = .connectionRefused) ∧
      (∀ (message : String) (p : IoPayload), ¬ (IoPayload.text message).Leads p ∧
        ¬ (IoPayload.ssh message).Leads p ∧ ¬ (IoPayload.link (.ssh message)).Leads p) ∧
      (∀ (p : IoPayload) (f : LinkFault), p.Inside (.link f) → f.isRefused = p.isRefused) ∧
      (∀ f : LinkFault, (Failure.link f).isRefused = f.isRefused ∧
        (Failure.connector (.link f)).isRefused = f.isRefused) ∧
      ∀ failure : Failure, (∀ f, failure ≠ .link f ∧ failure ≠ .connector (.link f)) →
        failure.isRefused = false := by
  refine ⟨fun f answer => ⟨fun h => h.eq_isRefused, ?_⟩, fun f => ?_, fun message p => ?_,
    fun p f h => ?_, fun f => ⟨rfl, rfl⟩, fun failure => isRefused_eq_false⟩
  · rintro rfl
    exact (IoPayload.link f).walks_isRefused
  · exact (IoPayload.link f).isRefused_iff_reaches
  · refine ⟨IoPayload.not_leads_text message p, IoPayload.not_leads_ssh message p, ?_⟩
    rintro (source | carried)
    · cases source with
      | link h => cases h
    · cases carried
  · exact h.isRefused_eq

/-- A refused dial inside a failure of a link, itself carried by a system failure that another one
carries: the outer one names as its source what lies two steps behind it. -/
theorem isRefused_of_carried_dial :
    (LinkFault.io (.custom .other (.io (.custom .timedOut
      (.link (.dialFailed "h:22" (.code 111))))))).isRefused = true := by
  have inside : (IoPayload.link (.dialFailed "h:22" (.code 111))).Inside
      (.link (.io (.custom .other (.io (.custom .timedOut
        (.link (.dialFailed "h:22" (.code 111)))))))) :=
    .io (.custom (.custom .bare (by decide)) (by decide))
  exact isRefused_exact.2.2.2.1 _ _ inside

end Failure

end Hostlink
