import Hostlink.Proofs.WinRm.Drain
import Hostlink.Proofs.WinRm.Staging
import Hostlink.Proofs.WinRm.Streams

/-!
# Capture of a command's output

The replies to the polls of a command are told apart by what they do to it. `Turn.isIdle` replies
say that there is nothing yet, and a reply that `Delivers` reports octets and whether the command
has finished; any other reply fails, `Turn.poll_fails`. Replies that leave a command unfinished are
`Ongoing`, together with the octets that they bring, and with a last reply they `Complete` it or
`Fail`.

Nothing of what a command comes to depends on the cuts: neither on those between replies, nor on
those between the elements inside one, nor on how often the endpoint had nothing to say. Texts are
read from all octets together, so a character may be cut anywhere. That is
`execute_captures_output`; `execute_of_started` is why the termination of the command has no part in
it.
-/

namespace Hostlink.WinRm

/-! ## Replies to polls -/

namespace Turn

/-- Whether a turn answers a poll by the fault that says that there is nothing yet. -/
def isIdle (t : Turn) (endpoint : String) : Bool :=
  match t.response endpoint with
  | .ok r => !isSuccess r.status && isReceiveTimeout r.text
  | .error _ => false

/-- **A turn that answers a poll by a report**, with success. -/
def Delivers (t : Turn) (endpoint : String) (stdout stderr : List Bytes) (code : Option Int32)
    (done : Bool) : Prop :=
  ∃ r, t.response endpoint = .ok r ∧ isSuccess r.status = true ∧
    Reports r.text stdout stderr code done

variable {t : Turn} {endpoint : String}

theorem poll_of_isIdle (h : t.isIdle endpoint = true) : t.poll endpoint = .ok .pending := by
  unfold isIdle at h
  unfold poll
  cases answered : t.response endpoint with
  | error fault => simp only [answered, Bool.false_eq_true] at h
  | ok r =>
    simp only [answered, Bool.and_eq_true, Bool.not_eq_true'] at h
    simp only [h.1, h.2, Bool.false_eq_true, if_false, if_true]

theorem poll_of_delivers {stdout stderr : List Bytes} {code : Option Int32} {done : Bool}
    (h : t.Delivers endpoint stdout stderr code done) :
    t.poll endpoint = .ok ⟨stdout.flatten, stderr.flatten, code, done⟩ := by
  obtain ⟨r, answered, success, report⟩ := h
  unfold poll
  simp only [answered, success, if_true]
  exact receiveChunk_eq_ok_iff.mpr ⟨stdout, stderr, report, rfl, rfl⟩

theorem isIdle_of_delivers {stdout stderr : List Bytes} {code : Option Int32} {done : Bool}
    (h : t.Delivers endpoint stdout stderr code done) : t.isIdle endpoint = false := by
  obtain ⟨r, answered, success, _⟩ := h
  simp only [isIdle, answered, success, Bool.not_true, Bool.false_and]

/-- **Any other reply fails.** -/
theorem poll_fails (loud : t.isIdle endpoint = false)
    (mute : ∀ stdout stderr code done, ¬ t.Delivers endpoint stdout stderr code done) :
    ∃ fault, t.poll endpoint = .error fault := by
  unfold poll
  cases answered : t.response endpoint with
  | error fault => exact ⟨fault, rfl⟩
  | ok r =>
    cases success : isSuccess r.status with
    | false =>
      have other : isReceiveTimeout r.text = false := by
        simpa only [isIdle, answered, success, Bool.not_false, Bool.true_and] using loud
      simp only [success, other, Bool.false_eq_true, if_false]
      exact ⟨_, rfl⟩
    | true =>
      simp only [success, if_true]
      cases read : receiveChunk r.text with
      | error fault => exact ⟨fault, rfl⟩
      | ok chunk =>
        obtain ⟨stdout, stderr, report, -, -⟩ := receiveChunk_eq_ok_iff.mp read
        exact absurd ⟨r, answered, success, report⟩ (mute stdout stderr _ _)

end Turn

/-- **Polls that leave a command unfinished**, and the octets that they bring to either stream. -/
inductive Ongoing (endpoint : String) : List Turn → Bytes → Bytes → Prop
  | nothing : Ongoing endpoint [] [] []
  | output {turn : Turn} {stdout stderr : List Bytes} {code : Option Int32} {rest : List Turn}
      {out err : Bytes} (h : turn.Delivers endpoint stdout stderr code false)
      (tail : Ongoing endpoint rest out err) :
      Ongoing endpoint (turn :: rest) (stdout.flatten ++ out) (stderr.flatten ++ err)
  | idle {turn : Turn} {rest : List Turn} {out err : Bytes} (h : turn.isIdle endpoint = true)
      (tail : Ongoing endpoint rest out err) : Ongoing endpoint (turn :: rest) out err

/-- **Polls that complete a command**: all but the last leave it unfinished, and the last finds it
finished. With the octets of either stream, and the code or zero. -/
inductive Completes (endpoint : String) : List Turn → Turn → Bytes → Bytes → Int32 → Prop
  | intro {polls : List Turn} {last : Turn} {out err : Bytes} {stdout stderr : List Bytes}
      {code : Option Int32} (ongoing : Ongoing endpoint polls out err)
      (done : last.Delivers endpoint stdout stderr code true) :
      Completes endpoint polls last (out ++ stdout.flatten) (err ++ stderr.flatten) (code.getD 0)

/-- **Polls that fail**: all but the last leave the command unfinished, and the last neither says
that there is nothing yet nor reports anything. -/
structure Fails (endpoint : String) (polls : List Turn) (last : Turn) : Prop where
  ongoing : ∃ out err, Ongoing endpoint polls out err
  loud : last.isIdle endpoint = false
  mute : ∀ stdout stderr code done, ¬ last.Delivers endpoint stdout stderr code done

namespace Ongoing

variable {endpoint : String}

/-- The chunks of polls that leave a command unfinished. -/
theorem unfinished {polls : List Turn} {out err : Bytes} (h : Ongoing endpoint polls out err) :
    ∃ chunks, Unfinished (Turn.poll · endpoint) polls chunks ∧
      chunks.flatMap (·.stdout) = out ∧ chunks.flatMap (·.stderr) = err := by
  induction h with
  | nothing => exact ⟨[], .nil, rfl, rfl⟩
  | output h _ ih =>
    obtain ⟨chunks, unfinished, rfl, rfl⟩ := ih
    exact ⟨_ :: chunks, .cons ⟨Turn.poll_of_delivers h, rfl⟩ unfinished, rfl, rfl⟩
  | idle h _ ih =>
    obtain ⟨chunks, unfinished, rfl, rfl⟩ := ih
    exact ⟨.pending :: chunks, .cons ⟨Turn.poll_of_isIdle h, rfl⟩ unfinished, rfl, rfl⟩

/-- **Polls that find nothing yet bring nothing.** By induction on the polls; one that is left out
can only have been idle, since a turn that reports something is not. -/
theorem filter_iff (polls : List Turn) (out err : Bytes) :
    Ongoing endpoint (polls.filter (!·.isIdle endpoint)) out err ↔
      Ongoing endpoint polls out err := by
  induction polls generalizing out err with
  | nil => rfl
  | cons turn rest ih =>
    cases quiet : turn.isIdle endpoint with
    | true =>
      rw [List.filter_cons_of_neg (by simp [quiet]), ih]
      refine ⟨.idle quiet, fun h => ?_⟩
      cases h with
      | output h _ => cases quiet.symm.trans (Turn.isIdle_of_delivers h)
      | idle _ tail => exact tail
    | false =>
      rw [List.filter_cons_of_pos (by simp [quiet])]
      constructor
      · intro h
        cases h with
        | output h tail => exact .output h ((ih _ _).mp tail)
        | idle h _ => cases quiet.symm.trans h
      · intro h
        cases h with
        | output h tail => exact .output h ((ih _ _).mpr tail)
        | idle h _ => cases quiet.symm.trans h

theorem of_filter_eq {polls polls' : List Turn} {out err : Bytes}
    (h : Ongoing endpoint polls out err)
    (same : polls'.filter (!·.isIdle endpoint) = polls.filter (!·.isIdle endpoint)) :
    Ongoing endpoint polls' out err :=
  (filter_iff polls' out err).mp (same ▸ (filter_iff polls out err).mpr h)

end Ongoing

/-! ## What a line comes to -/

/-- An endpoint that starts the next line, and answers its polls by these turns; what comes behind
them, the answer to the termination first, is left open. -/
def Wire.Answers (w : Wire) (endpoint : String) (polls : List Turn) : Prop :=
  ∃ start id behind, start.startedCommand endpoint = .ok id ∧ w.turns = start :: (polls ++ behind)

/-- What is done behind a program goes on from where it has left the wire. -/
theorem Wire.bind_eq {α β : Type} {act : StateM Wire α} {next : α → StateM Wire β} {w w' : Wire}
    {a : α} (h : act w = (a, w')) : (act >>= next) w = next a w' := by
  show next (act w).1 (act w).2 = _
  rw [h]

/-- **A line that is started comes to what draining it comes to**; the termination has no part in
it. -/
theorem Session.execute_of_started (s : Session) (line : String) {w : Wire} {start : Turn}
    {turns : List Turn} {id : String} (started : start.startedCommand s.endpoint = .ok id)
    (taken : w.turns = start :: turns) :
    (s.execute line w).1 =
      (drain (Turn.poll · s.endpoint) (w.ending.pollFault s.endpoint) 0 {} turns).2 := by
  unfold Turn.startedCommand at started
  cases called : start.call s.endpoint with
  | error fault => simp only [called, reduceCtorEq] at started
  | ok reply =>
    simp only [called] at started
    let request := Request.command s.shell line
    let w₁ : Wire :=
      { w with turns, events := w.events ++ [.exchange ⟨s.endpoint, request, start⟩] }
    have call : Wire.call s.endpoint request w = (.ok reply, w₁) := by
      show (Turn.call (Wire.exchange s.endpoint request w).1 s.endpoint,
        (Wire.exchange s.endpoint request w).2) = _
      simp only [Wire.exchange, taken, called, w₁]
    unfold Session.execute
    rw [Wire.bind_eq call]
    simp only [started]
    rfl

variable {s : Session} {w : Wire} {polls : List Turn} {last : Turn}

/-- A command that is completed comes to all octets read together. -/
theorem Session.execute_of_completes (line : String)
    (answers : w.Answers s.endpoint (polls ++ [last]))
    {out err : Bytes} {code : Int32} (h : Completes s.endpoint polls last out err code) :
    (s.execute line w).1 = .ok ⟨Utf8.decodeLossy out, Utf8.decodeLossy err, code⟩ := by
  obtain ⟨start, id, behind, started, taken⟩ := answers
  obtain ⟨ongoing, done⟩ := h
  obtain ⟨chunks, unfinished, rfl, rfl⟩ := ongoing.unfinished
  rw [s.execute_of_started line started taken, List.append_assoc, List.singleton_append,
    drain_finished _ unfinished (Turn.poll_of_delivers done) rfl]
  simp only [Chunk.together, List.flatMap_append, List.flatMap_singleton]

/-- A command whose poll fails comes to the fault of that poll. -/
theorem Session.execute_of_fails (line : String) (answers : w.Answers s.endpoint (polls ++ [last]))
    (h : Fails s.endpoint polls last) :
    ∃ fault, last.poll s.endpoint = .error fault ∧ (s.execute line w).1 = .error fault := by
  obtain ⟨start, id, behind, started, taken⟩ := answers
  obtain ⟨⟨out, err, ongoing⟩, loud, mute⟩ := h
  obtain ⟨chunks, unfinished, -, -⟩ := ongoing.unfinished
  obtain ⟨fault, failed⟩ := Turn.poll_fails loud mute
  refine ⟨fault, failed, ?_⟩
  rw [s.execute_of_started line started taken, List.append_assoc]
  exact drain_failed _ unfinished failed behind

/-- **Capture of output**: a command whose polls complete it comes to the octets of all replies, put
together in order and then read as text, and to the code of the last one. So replies cut in another
way give the same outcome, wherever the cuts are. A reply that fails before the command is completed
is what the command comes to, without any of the output. Polls that found nothing yet may come and
go in between, and what follows the last poll, the answer to the termination included, may be
anything. -/
theorem execute_captures_output (line : String) (answers : w.Answers s.endpoint (polls ++ [last])) :
    (∀ out err code, Completes s.endpoint polls last out err code →
      (s.execute line w).1 = .ok ⟨Utf8.decodeLossy out, Utf8.decodeLossy err, code⟩) ∧
    (∀ w' polls' last' out err code, w'.Answers s.endpoint (polls' ++ [last']) →
      Completes s.endpoint polls last out err code →
      Completes s.endpoint polls' last' out err code →
      (s.execute line w').1 = (s.execute line w).1) ∧
    (Fails s.endpoint polls last →
      ∃ fault, last.poll s.endpoint = .error fault ∧ (s.execute line w).1 = .error fault) ∧
    (∀ w' polls', w'.Answers s.endpoint (polls' ++ [last]) →
      polls'.filter (!·.isIdle s.endpoint) = polls.filter (!·.isIdle s.endpoint) →
      (∃ out err code, Completes s.endpoint polls last out err code) ∨
        Fails s.endpoint polls last →
      (s.execute line w').1 = (s.execute line w).1) := by
  refine ⟨fun out err code h => Session.execute_of_completes line answers h, ?_,
    Session.execute_of_fails line answers, ?_⟩
  · intro w' polls' last' out err code answers' h h'
    rw [Session.execute_of_completes line answers h, Session.execute_of_completes line answers' h']
  · intro w' polls' answers' same ended
    rcases ended with ⟨out, err, code, h⟩ | h
    · obtain ⟨ongoing, done⟩ := h
      have h' := Completes.intro (ongoing.of_filter_eq same) done
      rw [Session.execute_of_completes line answers' h',
        Session.execute_of_completes line answers (.intro ongoing done)]
    · obtain ⟨out, err, ongoing⟩ := h.ongoing
      have h' : Fails s.endpoint polls' last :=
        ⟨⟨out, err, ongoing.of_filter_eq same⟩, h.loud, h.mute⟩
      obtain ⟨fault, failed, answer⟩ := Session.execute_of_fails line answers h
      obtain ⟨fault', failed', answer'⟩ := Session.execute_of_fails line answers' h'
      cases failed.symm.trans failed'
      rw [answer, answer']

/-! A word that is cut inside its last character, between two elements and again between two
replies, and a poll in between that finds nothing. -/

/-- A reply with two elements, the second of which ends inside a character. -/
def cutReply : String :=
  "<rsp:Stream Name=\"stdout\">Y2Fm</rsp:Stream><rsp:Stream Name=\"stdout\">ww==</rsp:Stream>"

/-- A reply with the rest of the character, and with the end of the command. -/
def lastReply : String :=
  "<rsp:Stream Name=\"stdout\">qQ==</rsp:Stream>CommandState/Done\"<rsp:ExitCode>3</rsp:ExitCode>"

theorem cutReply_reports : Reports cutReply [[99, 97, 102], [195]] [] none false where
  stdout := by
    have contents : streamContents "stdout" cutReply.toList = ["Y2Fm".toList, "ww==".toList] := by
      decide +kernel
    unfold Carries
    rw [contents]
    exact .cons rfl (.cons rfl .nil)
  stderr := (carries_of_none (by decide +kernel) _).mpr rfl
  code := .absent (by decide +kernel)
  done := by decide +kernel

theorem lastReply_reports : Reports lastReply [[169]] [] (some 3) true where
  stdout := by
    have contents : streamContents "stdout" lastReply.toList = ["qQ==".toList] := by decide +kernel
    unfold Carries
    rw [contents]
    exact .cons rfl .nil
  stderr := (carries_of_none (by decide +kernel) _).mpr rfl
  code := .stated (show elementText? _ _ = some ['3'] by decide +kernel) (by decide +kernel)
  done := by decide +kernel

/-- An endpoint that cuts a word in its last character, finds nothing at the poll in between, and
does not take the termination. -/
def Wire.cutting : Wire where
  turns := [.starting "C1", .answering 200 cutReply, .answering 500 "2150858793",
    .answering 200 lastReply, .answering 500 ""]
  ending := .silent

/-- The challenge that comes before an answer is one that can be read. -/
theorem Turn.response_answering (status : Nat) (body endpoint : String) :
    (answering status body).response endpoint =
      LegEnd.response endpoint (.replied ⟨status, [], body⟩) := by
  have read : (challenge (answering 0 "") "").toOption = some ⟨[1, 2, 3, 4, 5, 6, 7, 8], []⟩ := by
    decide +kernel
  have same : (answering status body).challenge endpoint = challenge (answering 0 "") "" := rfl
  unfold response
  rw [same]
  cases parsed : challenge (answering 0 "") "" with
  | error fault => rw [parsed] at read; cases read
  | ok c => rfl

theorem Turn.delivers_answering {reply endpoint : String} {stdout stderr : List Bytes}
    {code : Option Int32} {done : Bool} (h : Reports reply stdout stderr code done) :
    (answering 200 reply).Delivers endpoint stdout stderr code done :=
  ⟨⟨200, reply⟩, response_answering 200 reply endpoint, rfl, h⟩

theorem execute_captures_output_cutting :
    (Session.sample.execute "dir" .cutting).1 = .ok ⟨"café", "", 3⟩ := by
  have started : (Turn.starting "C1").startedCommand Session.sample.endpoint = .ok "C1" := by
    unfold Turn.startedCommand Turn.call Turn.starting
    rw [Turn.response_answering]
    rfl
  have answers : Wire.cutting.Answers Session.sample.endpoint
      ([.answering 200 cutReply, .answering 500 "2150858793"] ++ [.answering 200 lastReply]) :=
    ⟨.starting "C1", "C1", [.answering 500 ""], started, rfl⟩
  have completes : Completes Session.sample.endpoint
      [.answering 200 cutReply, .answering 500 "2150858793"] (.answering 200 lastReply)
      [99, 97, 102, 195, 169] [] 3 :=
    .intro (.output (Turn.delivers_answering cutReply_reports) (.idle (by decide +kernel) .nothing))
      (Turn.delivers_answering lastReply_reports)
  rw [(execute_captures_output "dir" answers).1 _ _ _ completes]
  have text : Utf8.decodeLossy [99, 97, 102, 195, 169] = "café" := by decide +kernel
  rw [text]
  rfl

end Hostlink.WinRm
