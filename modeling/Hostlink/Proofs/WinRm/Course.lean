import Hostlink.WinRm.Connection

/-!
# The course of a command line

What a session sends for one command line, and what the line comes to. The part of a log that
belongs to a line has one of two shapes, and `LineCourse` is the type of these shapes: the request
to start the line brought no command, and nothing follows; or it brought one, and polls follow up
to the one that ends the command, and then one request to terminate it. A course that breaks the
shape cannot be built, so what is proved of courses is proved of logs.

`Polling` says without `drain` when polls end and what they come to. `Session.execute_course` is
the law: carrying out a line takes a course of that line, and answers its outcome.

`Stepwise` is the order of lines that must all return zero: each is sent only after all before it
did, and none after one that did not.
-/

namespace Hostlink.WinRm

/-! ## What a program sends -/

/-- **Sending**: started on `w`, a program answers `a` and leaves `w'`, with `log` added to the
exchanges. -/
structure Sends {α : Type} (act : StateM Wire α) (w : Wire) (a : α) (log : List Exchange)
    (w' : Wire) : Prop where
  run : act w = (a, w')
  exchanges : w'.exchanges = w.exchanges ++ log

theorem Sends.pure {α : Type} (a : α) (w : Wire) : Sends (Pure.pure a) w a [] w :=
  ⟨rfl, (List.append_nil _).symm⟩

/-- Two programs in a row send what they send, in that order. -/
theorem Sends.bind {α β : Type} {act : StateM Wire α} {next : α → StateM Wire β}
    {w w' w'' : Wire} {a : α} {b : β} {log log' : List Exchange}
    (first : Sends act w a log w') (second : Sends (next a) w' b log' w'') :
    Sends (act >>= next) w b (log ++ log') w'' := by
  refine ⟨?_, ?_⟩
  · show next (act w).1 (act w).2 = (b, w'')
    rw [first.run]
    exact second.run
  · rw [second.exchanges, first.exchanges, List.append_assoc]

/-- A program whose last step sends nothing sends what comes before it. -/
theorem Sends.bind_pure {α β : Type} {act : StateM Wire α} {next : α → StateM Wire β}
    {w w' : Wire} {a : α} {b : β} {log : List Exchange}
    (first : Sends act w a log w') (h : next a = Pure.pure b) : Sends (act >>= next) w b log w' := by
  have second : Sends (next a) w' b [] w' := h ▸ Sends.pure b w'
  simpa only [List.append_nil] using first.bind second

/-- Exchanges that a wire records as its latest events come last in its log. -/
theorem Wire.exchanges_of_events {w w' : Wire} {log : List Exchange}
    (h : w'.events = w.events ++ log.map .exchange) : w'.exchanges = w.exchanges ++ log := by
  simp only [exchanges, h, List.filterMap_append, List.filterMap_map, Function.comp_def,
    List.filterMap_some]

theorem Wire.sends_exchange (endpoint : String) (request : Request) (w : Wire) :
    ∃ turn w', Sends (exchange endpoint request) w turn [⟨endpoint, request, turn⟩] w' :=
  ⟨_, _, rfl, exchanges_of_events rfl⟩

/-- A request that has to succeed is one exchange. -/
theorem Wire.sends_call (endpoint : String) (request : Request) (w : Wire) :
    ∃ turn w', Sends (call endpoint request) w (turn.call endpoint)
      [⟨endpoint, request, turn⟩] w' := by
  obtain ⟨turn, w', h⟩ := sends_exchange endpoint request w
  exact ⟨turn, w', h.bind_pure rfl⟩

theorem Wire.sends_pause (seconds : Nat) (w : Wire) : ∃ w', Sends (pause seconds) w () [] w' :=
  ⟨_, rfl, by
    simp only [exchanges, List.filterMap_append, List.filterMap_cons_none, List.filterMap_nil]⟩

/-! ## Polls -/

/-- **Polls that end**: on top of what was collected, these polls found a command unfinished, all
but the last, and the last one failed or found it finished; that is what they come to. -/
inductive Polling (endpoint : String) : Collected → List Turn → Attempt Outcome → Prop
  | failed {collected : Collected} {turn : Turn} {fault : LinkFault}
      (h : turn.poll endpoint = .error fault) : Polling endpoint collected [turn] (.error fault)
  | finished {collected : Collected} {turn : Turn} {chunk : Chunk}
      (h : turn.poll endpoint = .ok chunk) (done : chunk.done = true) :
      Polling endpoint collected [turn] (.ok ((collected.push chunk).outcome chunk.exitCode))
  | unfinished {collected : Collected} {turn : Turn} {chunk : Chunk} {rest : List Turn}
      {outcome : Attempt Outcome} (h : turn.poll endpoint = .ok chunk)
      (more : chunk.done = false) (tail : Polling endpoint (collected.push chunk) rest outcome) :
      Polling endpoint collected (turn :: rest) outcome

/-- A poll past the last turn fails, and with the fault that the ending names. -/
theorem Ending.poll_turn (endpoint : String) (e : Ending) :
    e.turn.poll endpoint = .error (e.pollFault endpoint) := by
  have h : ∃ fault, e.turn.poll endpoint = .error fault := by
    cases e with
    | unreachable layers cause => exact ⟨_, rfl⟩
    | silent =>
      -- whether the challenge is taken or not, the exchange ends in a fault
      simp only [Turn.poll, Turn.response]
      cases Ending.silent.turn.challenge endpoint with
      | error fault => exact ⟨fault, rfl⟩
      | ok challenge => exact ⟨_, rfl⟩
  obtain ⟨fault, h⟩ := h
  simp only [pollFault, h]

/-- **Draining takes polls that end**: the first turns there are, with `last` behind them, as many
as the count says. The induction is on the turns to come; what was collected grows along it. -/
theorem polling_of_drain {endpoint : String} {last : Turn} {past : LinkFault}
    (hlast : last.poll endpoint = .error past) (count : Nat) (collected : Collected)
    (turns : List Turn) :
    ∃ polls outcome, drain (·.poll endpoint) past count collected turns =
        (count + polls.length, outcome) ∧
      polls = (turns ++ [last]).take polls.length ∧ Polling endpoint collected polls outcome := by
  induction turns generalizing count collected with
  | nil => exact ⟨[last], .error past, rfl, rfl, .failed hlast⟩
  | cons turn rest ih =>
    cases h : turn.poll endpoint with
    | error fault =>
      refine ⟨[turn], .error fault, ?_, rfl, .failed h⟩
      simp only [drain, h, List.length_singleton]
    | ok chunk =>
      cases done : chunk.done with
      | true =>
        refine ⟨[turn], _, ?_, rfl, .finished h done⟩
        simp only [drain, h, done, if_true, List.length_singleton]
      | false =>
        obtain ⟨polls, outcome, hdrain, htake, hpolls⟩ := ih (count + 1) (collected.push chunk)
        refine ⟨turn :: polls, outcome, ?_, ?_, .unfinished h done hpolls⟩
        · simp only [drain, h, done, Bool.false_eq_true, if_false, hdrain, List.length_cons,
            Nat.add_assoc, Nat.add_comm 1]
        · simp only [List.length_cons, List.cons_append, List.take_succ_cons, ← htake]

/-- Draining a command logs its polls and nothing else. -/
theorem Wire.sends_drain (endpoint shell id : String) (w : Wire) :
    ∃ polls outcome w', Polling endpoint {} polls outcome ∧
      Sends (Wire.drain endpoint shell id) w outcome
        (polls.map (⟨endpoint, .receive shell id, ·⟩)) w' := by
  obtain ⟨polls, outcome, hdrain, htake, hpolls⟩ :=
    polling_of_drain (w.ending.poll_turn endpoint) 0 {} w.turns
  rw [Nat.zero_add] at hdrain
  let events := polls.map fun turn => Event.exchange ⟨endpoint, .receive shell id, turn⟩
  have hrun : Wire.drain endpoint shell id w =
      (outcome, { w with turns := w.turns.drop polls.length, events := w.events ++ events }) := by
    simp only [Wire.drain, hdrain, ← htake, events]
  refine ⟨polls, outcome, _, hpolls, hrun, exchanges_of_events ?_⟩
  simp only [events, List.map_map, Function.comp_def]

/-! ## The course of one line -/

/-- The command that a turn starts, where it is the answer to a request to start one. -/
def Turn.startedCommand (t : Turn) (endpoint : String) : Attempt String :=
  match t.call endpoint with
  | .error fault => .error fault
  | .ok reply => commandId reply

/-- **The course of a command line** on an endpoint. -/
inductive LineCourse (endpoint : String) where
  /-- The request to start the line brought no command. -/
  | refused (line : String) (start : Turn) (fault : LinkFault)
      (answered : start.startedCommand endpoint = .error fault)
  /-- The request to start the line brought a command, which was polled to its end and then
  terminated; what the termination came to is not looked at. -/
  | started (line : String) (start : Turn) (id : String) (polls : List Turn)
      (outcome : Attempt Outcome) (stop : Turn)
      (answered : start.startedCommand endpoint = .ok id)
      (polled : Polling endpoint {} polls outcome)

namespace LineCourse

variable {endpoint : String}

def line : LineCourse endpoint → String
  | refused line .. | started line .. => line

def outcome : LineCourse endpoint → Attempt Outcome
  | refused _ _ fault _ => .error fault
  | started _ _ _ _ outcome .. => outcome

def exchanges (shell : String) : LineCourse endpoint → List Exchange
  | refused line start .. => [⟨endpoint, .command shell line, start⟩]
  | started line start id polls _ stop .. =>
    ⟨endpoint, .command shell line, start⟩ ::
      (polls.map (⟨endpoint, .receive shell id, ·⟩) ++ [⟨endpoint, .signal shell id, stop⟩])

/-- **The line returned zero**: it was carried out to its end, and zero is its return code. -/
def Succeeded (c : LineCourse endpoint) : Prop := ∃ o, c.outcome = .ok o ∧ o.exitCode = 0

/-- What the line comes to where it has to return zero. -/
def step (c : LineCourse endpoint) : Attempt Outcome :=
  match c.outcome with
  | .error fault => .error fault
  | .ok o => Command.check { text := c.line } o

/-- A line that has to return zero is held against a command of its own. -/
theorem step_eq_bind (c : LineCourse endpoint) :
    c.step = c.outcome.bind (Command.check { text := c.line }) := by
  unfold step
  cases c.outcome <;> rfl

/-- A line that has to return zero is taken exactly if it did. -/
theorem succeeded_iff (c : LineCourse endpoint) : c.Succeeded ↔ ∃ o, c.step = .ok o := by
  unfold Succeeded step
  cases c.outcome with
  | error fault =>
    constructor
    · rintro ⟨_, h, _⟩; cases h
    · rintro ⟨_, h⟩; cases h
  | ok o =>
    simp only [Except.ok.injEq, exists_eq_left', Command.check]
    split
    next h => exact iff_of_true h ⟨o, rfl⟩
    next h =>
      refine iff_of_false h ?_
      rintro ⟨_, ok⟩
      cases ok

theorem not_succeeded_of_fault {c : LineCourse endpoint} {fault : LinkFault}
    (h : c.step = .error fault) : ¬ c.Succeeded := fun hs => by
  obtain ⟨o, ho⟩ := c.succeeded_iff.mp hs
  cases h.symm.trans ho

end LineCourse

/-- **Carrying out a line takes a course of that line**, and answers what the course came to. -/
theorem Session.execute_course (s : Session) (line : String) (w : Wire) :
    ∃ (c : LineCourse s.endpoint) (w' : Wire), c.line = line ∧
      Sends (s.execute line) w c.outcome (c.exchanges s.shell) w' := by
  obtain ⟨start, w₁, hstart⟩ := Wire.sends_call s.endpoint (.command s.shell line) w
  cases called : start.call s.endpoint with
  | error fault =>
    rw [called] at hstart
    have answered : start.startedCommand s.endpoint = .error fault := by
      simp only [Turn.startedCommand, called]
    exact ⟨.refused line start fault answered, w₁, rfl, hstart.bind_pure rfl⟩
  | ok reply =>
    rw [called] at hstart
    have answered : start.startedCommand s.endpoint = commandId reply := by
      simp only [Turn.startedCommand, called]
    cases named : commandId reply with
    | error fault =>
      rw [named] at answered
      refine ⟨.refused line start fault answered, w₁, rfl, hstart.bind_pure ?_⟩
      simp only [named, LineCourse.outcome]
    | ok id =>
      rw [named] at answered
      obtain ⟨polls, outcome, w₂, hpolls, hdrain⟩ := Wire.sends_drain s.endpoint s.shell id w₁
      obtain ⟨stop, w₃, hstop⟩ := Wire.sends_call s.endpoint (.signal s.shell id) w₂
      refine ⟨.started line start id polls outcome stop answered hpolls, w₃, rfl, hstart.bind ?_⟩
      simp only [named]
      exact hdrain.bind (hstop.bind_pure rfl)

/-- A line that has to return zero takes a course of that line. -/
theorem Session.executeStep_course (s : Session) (line : String) (w : Wire) :
    ∃ (c : LineCourse s.endpoint) (w' : Wire), c.line = line ∧
      Sends (s.executeStep line) w c.step (c.exchanges s.shell) w' := by
  obtain ⟨c, w', rfl, h⟩ := s.execute_course line w
  refine ⟨c, w', rfl, h.bind_pure ?_⟩
  unfold LineCourse.step
  cases c.outcome <;> rfl

/-! ## The lines of a log -/

/-- The command line that a request asks to start. -/
def Request.line? : Request → Option String
  | .command _ line => some line
  | .create | .receive .. | .signal .. | .delete .. => none

/-- The command lines that a log asks to start, in order. -/
def commandLines (log : List Exchange) : List String := log.filterMap (·.request.line?)

/-- What is sent for a line asks for that line, once. -/
theorem LineCourse.commandLines_exchanges {endpoint : String} (c : LineCourse endpoint)
    (shell : String) : commandLines (c.exchanges shell) = [c.line] := by
  cases c with
  | refused => rfl
  | started line start id polls =>
    have hpolls : commandLines (polls.map (⟨endpoint, .receive shell id, ·⟩)) = [] :=
      List.filterMap_eq_nil_iff.mpr fun e he => by
        obtain ⟨_, _, rfl⟩ := List.mem_map.mp he
        rfl
    show line :: commandLines (_ ++ [_]) = [line]
    unfold commandLines at hpolls ⊢
    rw [List.filterMap_append, hpolls]
    rfl

/-- What is sent for several lines asks for those lines, in their order. -/
theorem commandLines_flatMap {endpoint : String} (cs : List (LineCourse endpoint))
    (shell : String) : commandLines (cs.flatMap (·.exchanges shell)) = cs.map (·.line) := by
  induction cs with
  | nil => rfl
  | cons c cs ih =>
    have h := c.commandLines_exchanges shell
    unfold commandLines at h ih ⊢
    rw [List.flatMap_cons, List.filterMap_append, h, ih]
    rfl

/-! ## Lines one after another -/

/-- **One line after another**: courses of the first lines of a list, each but the last of which
returned zero; the last one did not, or it is the course of the last line. -/
inductive Stepwise {endpoint : String} : List String → List (LineCourse endpoint) → Prop
  | done : Stepwise [] []
  | stopped {line : String} {lines : List String} {c : LineCourse endpoint} (h : c.line = line)
      (failed : ¬ c.Succeeded) : Stepwise (line :: lines) [c]
  | next {line : String} {lines : List String} {c : LineCourse endpoint}
      {cs : List (LineCourse endpoint)} (h : c.line = line) (succeeded : c.Succeeded)
      (tail : Stepwise lines cs) : Stepwise (line :: lines) (c :: cs)

theorem Stepwise.single {endpoint : String} (c : LineCourse endpoint) : Stepwise [c.line] [c] := by
  by_cases h : c.Succeeded
  · exact .next rfl h .done
  · exact .stopped rfl h

/-- The lines sent are the first ones of the list. -/
theorem Stepwise.firstLines {endpoint : String} {lines : List String}
    {cs : List (LineCourse endpoint)} (h : Stepwise lines cs) : cs.map (·.line) <+: lines := by
  induction h with
  | done => exact List.nil_prefix
  | @stopped line lines c h =>
    rw [← h]
    exact ⟨lines, rfl⟩
  | next h _ _ ih =>
    rw [← h]
    exact List.cons_prefix_cons.mpr ⟨rfl, ih⟩

/-- **What lines come to** of which the first `steps` have to return zero: the fault of the first
that does not, or else the outcome of the line behind them. -/
def outcomeAfter {endpoint : String} : (steps : Nat) → List (LineCourse endpoint) → Attempt Outcome
  | _, [] => .error .notConnected
  | 0, c :: _ => c.outcome
  | steps + 1, c :: cs =>
    match c.step with
    | .error fault => .error fault
    | .ok _ => outcomeAfter steps cs

/-- **Steps before a last line** are sent one after another and come to what their courses say. By
induction on the steps: the last line hangs behind them as the rest of the program. -/
theorem Session.executeSteps_courses (s : Session) (last : String) (steps : List String)
    (w : Wire) :
    ∃ (cs : List (LineCourse s.endpoint)) (w' : Wire), Stepwise (steps ++ [last]) cs ∧
      Sends (s.executeSteps steps >>= fun
          | .error fault => Pure.pure (.error fault)
          | .ok () => s.execute last)
        w (outcomeAfter steps.length cs) (cs.flatMap (·.exchanges s.shell)) w' := by
  induction steps generalizing w with
  | nil =>
    obtain ⟨c, w', rfl, h⟩ := s.execute_course last w
    refine ⟨[c], w', .single c, ?_⟩
    rw [List.flatMap_singleton]
    exact (Sends.pure (Except.ok ()) w).bind h
  | cons line steps ih =>
    obtain ⟨c, w₁, rfl, h⟩ := s.executeStep_course line w
    simp only [executeSteps, bind_assoc]
    cases hc : c.step with
    | error fault =>
      refine ⟨[c], w₁, .stopped rfl (LineCourse.not_succeeded_of_fault hc), ?_⟩
      simp only [List.length_cons, outcomeAfter, hc, List.flatMap_singleton]
      exact (hc ▸ h).bind_pure rfl
    | ok o =>
      obtain ⟨cs, w₂, hcs, hrest⟩ := ih w₁
      refine ⟨c :: cs, w₂, .next rfl (c.succeeded_iff.mpr ⟨o, hc⟩) hcs, ?_⟩
      simp only [List.length_cons, outcomeAfter, hc, List.flatMap_cons]
      exact (hc ▸ h).bind hrest

end Hostlink.WinRm
