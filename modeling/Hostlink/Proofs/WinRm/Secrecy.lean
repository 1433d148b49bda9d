import Mathlib.Data.List.Forall2
import Hostlink.Proofs.Lifecycle
import Hostlink.Proofs.WinRm.Limits
import Hostlink.Proofs.WinRm.Onward
import Hostlink.Readers

/-!
# Where the password goes

Two runs are compared that differ in nothing but passwords. `Target.Alike` says so of targets, and
`Session.Alike` and `Connection.Alike` say what is left of the difference in what a connection keeps:
the password of the identity that speaks.

`Connection.watch` is what can be seen of a run from outside, call by call: what happens on the wire,
what is posted there, what the call answers, and what is shown of the connection. A step shows the
same in both runs and keeps the connections alike, `Connection.take_alike`, and so does a whole run,
`watch_alike`. The one thing that differs are the two digests of a third message,
`Identity.authenticate_alike`.
-/

namespace Hostlink

/-! ## Messages of identities alike -/

namespace WinRm

/-- Identities that differ in nothing but the password. -/
inductive Ntlm.Identity.Alike : Ntlm.Identity → Ntlm.Identity → Prop
  | intro (user domain workstation password password' : String) :
      Alike ⟨user, domain, workstation, password⟩ ⟨user, domain, workstation, password'⟩

namespace Ntlm

/-- **Third messages alike but for their proofs**, the digests at 88 and at 112. -/
structure AlikeButProofs (message message' : Bytes) : Prop where
  kind : message.take 12 = signature ++ Bytes.littleEndian 4 3
  length : message.length = message'.length
  same : ∀ k, ¬ (88 ≤ k ∧ k < 104) → ¬ (112 ≤ k ∧ k < 128) → message[k]? = message'[k]?

theorem getElem?_of_outside (front : List UInt8) {part part' : List UInt8} (rest : List UInt8)
    (same : part.length = part'.length) {k : Nat}
    (outside : ¬ (front.length ≤ k ∧ k < front.length + part.length)) :
    (front ++ (part ++ rest))[k]? = (front ++ (part' ++ rest))[k]? := by
  by_cases before : k < front.length
  · rw [List.getElem?_append_left before, List.getElem?_append_left before]
  · rw [List.getElem?_append_right (by omega), List.getElem?_append_right (by omega),
      List.getElem?_append_right (by omega), List.getElem?_append_right (by omega), same]

/-- A header depends on the lengths of the parts alone. -/
theorem Answer.header_congr {a a' : Answer}
    (lengths : a.parts.map List.length = a'.parts.map List.length) : a.header = a'.header := by
  rw [header, header, directory, directory, spread_congr lengths]

/-- **What a password changes in a third message**: the first sixteen octets of either proof. -/
theorem Identity.authenticate_alike {i i' : Identity} (alike : i.Alike i') (c : Challenge)
    {clientChallenge : Bytes} (eight : clientChallenge.length = 8) (timestamp : Nat) :
    AlikeButProofs (i.authenticate c clientChallenge timestamp)
      (i'.authenticate c clientChallenge timestamp) := by
  let told := blob clientChallenge timestamp c.targetInfo
  let names := Utf16.encode i.domain ++ (Utf16.encode i.user ++ Utf16.encode i.workstation)
  let first (i : Identity) := Digest.hmacMd5 i.key (c.nonce ++ clientChallenge)
  let second (i : Identity) := Digest.hmacMd5 i.key (c.nonce ++ told)
  have sixteen (i : Identity) : (first i).length = 16 ∧ (second i).length = 16 :=
    ⟨Digest.length_hmacMd5 _ _, Digest.length_hmacMd5 _ _⟩
  let header := (i.answer c clientChallenge timestamp).header
  have long : header.length = 88 := Answer.length_header _
  have shape : i.authenticate c clientChallenge timestamp =
      header ++ (first i ++ (clientChallenge ++ (second i ++ (told ++ names)))) := by
    rw [authenticate, Answer.message_eq_header_append]
    simp only [answer, Answer.parts, proof, header, first, second, told, names, List.flatten_cons,
      List.flatten_nil, List.append_nil, List.append_assoc]
  have shape' : i'.authenticate c clientChallenge timestamp =
      header ++ (first i' ++ (clientChallenge ++ (second i' ++ (told ++ names)))) := by
    have headers : (i'.answer c clientChallenge timestamp).header = header := by
      apply Answer.header_congr
      cases alike
      simp only [answer, Answer.parts, List.map_cons, List.map_nil, length_proof]
    rw [authenticate, Answer.message_eq_header_append, headers]
    cases alike
    simp only [answer, Answer.parts, proof, first, second, told, names, List.flatten_cons,
      List.flatten_nil, List.append_nil, List.append_assoc]
  constructor
  · rw [authenticate, Answer.message_eq]
    exact List.take_left' rfl
  · rw [shape, shape']
    simp only [List.length_append, (sixteen i).1, (sixteen i).2, (sixteen i').1, (sixteen i').2]
  · intro k outside outside'
    have once := getElem?_of_outside header (clientChallenge ++ (second i ++ (told ++ names)))
      ((sixteen i).1.trans (sixteen i').1.symm) (k := k) (by rw [long, (sixteen i).1]; omega)
    have twice := getElem?_of_outside (header ++ (first i' ++ clientChallenge)) (told ++ names)
      ((sixteen i).2.trans (sixteen i').2.symm) (k := k) (by
        simp only [List.length_append, long, (sixteen i').1, eight, (sixteen i).2]
        omega)
    simp only [List.append_assoc] at twice
    rw [shape, shape', once, twice]

end Ntlm

/-- **Posts alike**: the same, or with third messages that are alike but for their proofs. -/
inductive Post.Alike : Post → Post → Prop
  | same (p : Post) : Alike p p
  | proofs (url : String) (contentType : Option String) (body : String) (method : Method)
      {message message' : Bytes} (h : Ntlm.AlikeButProofs message message') :
      Alike ⟨url, some (WinRm.authorization message), contentType, body, method⟩
        ⟨url, some (WinRm.authorization message'), contentType, body, method⟩

/-- A redirect holds a proof back or passes it on. -/
theorem Post.Alike.sentOn {p p' : Post} (h : p.Alike p') (r : Redirect) :
    (p.sentOn r).Alike (p'.sentOn r) := by
  cases h with
  | same => exact .same _
  | proofs url contentType body method proofs =>
    unfold Post.sentOn
    cases r.elsewhere with
    | true => exact .same _
    | false =>
      cases r.repeats with
      | true => exact .proofs _ _ _ _ proofs
      | false => exact .proofs _ _ _ _ proofs

/-- What redirects make of posts alike is alike. By induction on the redirects. -/
theorem Post.Alike.along {p p' : Post} (h : p.Alike p') (redirects : List Redirect) :
    List.Forall₂ Post.Alike (p.along redirects) (p'.along redirects) := by
  induction redirects generalizing p p' with
  | nil => exact .cons h .nil
  | cons r rest ih => exact .cons h (ih (h.sentOn r))

theorem Exchange.posts_alike (e : Exchange) (eight : e.turn.clientChallenge.length = 8)
    {i i' : Ntlm.Identity} (alike : i.Alike i') :
    List.Forall₂ Post.Alike (e.posts i) (e.posts i') := by
  have hello : e.hello i = e.hello i' := by
    cases alike
    rfl
  unfold posts proof?
  rw [hello]
  apply List.rel_append
  · exact Post.Alike.along (.same _) _
  · cases e.turn.challenge e.endpoint with
    | error fault => exact .nil
    | ok c =>
      have carriers := Post.Alike.proofs e.endpoint contentType e.text .post
        (Ntlm.Identity.authenticate_alike alike c eight e.turn.timestamp)
      exact List.rel_append (carriers.along e.turn.authenticate.redirects) .nil

theorem flatMap_posts_alike {log : List Exchange}
    (eight : ∀ e ∈ log, e.turn.clientChallenge.length = 8) {i i' : Ntlm.Identity}
    (alike : i.Alike i') :
    List.Forall₂ Post.Alike (log.flatMap (·.posts i)) (log.flatMap (·.posts i')) := by
  induction log with
  | nil => exact .nil
  | cons e log ih =>
    obtain ⟨first, more⟩ := List.forall_mem_cons.mp eight
    rw [List.flatMap_cons, List.flatMap_cons]
    exact List.rel_append (e.posts_alike first alike) (ih more)

end WinRm

/-! ## Targets, calls and connections alike -/

/-- **Logins alike**: the same, or with passwords that are both present and not empty. -/
inductive Credentials.Alike : Credentials → Credentials → Prop
  | same (c : Credentials) : Alike c c
  | passwords (username : String) {password password' : String} (keyPath key : Option String)
      (present : password ≠ "") (present' : password' ≠ "") :
      Alike ⟨username, some password, keyPath, key⟩ ⟨username, some password', keyPath, key⟩

/-- Targets with logins alike, and otherwise equal. -/
inductive Target.Alike : Target → Target → Prop
  | intro (t : Target) {login login' : Option Credentials}
      (h : Option.Rel Credentials.Alike login login') :
      Alike { t with credentials := login } { t with credentials := login' }

/-- What targets alike have in common. -/
theorem Target.Alike.common {t t' : Target} (h : t.Alike t') :
    t.address = t'.address ∧ t.endpoint = t'.endpoint ∧ t.pause = t'.pause ∧
      t.retryAttempts = t'.retryAttempts ∧ t.winRm = t'.winRm := by
  cases h
  exact ⟨rfl, rfl, rfl, rfl, rfl⟩

/-- Calls alike: to connect to targets alike, or the same. -/
inductive Call.Alike : Call → Call → Prop
  | connect {t t' : Target} (h : t.Alike t') : Alike (.connect t) (.connect t')
  | disconnect : Alike .disconnect .disconnect
  | move (m : Link.Move) : Alike (.move m) (.move m)
  | run (command : Command) : Alike (.run command) (.run command)

theorem Credentials.passwordValue_some {username password : String} {keyPath key : Option String}
    (present : password ≠ "") :
    (Credentials.mk username (some password) keyPath key).passwordValue = some password := by
  have filled : (!password.isEmpty) = true := by
    rw [Bool.not_eq_true', String.isEmpty_eq_false_iff]
    exact present
  exact Option.filter_some_pos filled

namespace WinRm

/-- Targets alike have logins by one name, or fail in one way. -/
theorem Login.ofTarget_alike {t t' : Target} (h : t.Alike t') :
    (∃ fault, ofTarget t = .error fault ∧ ofTarget t' = .error fault) ∨
      ∃ name password password',
        ofTarget t = .ok ⟨name, password⟩ ∧ ofTarget t' = .ok ⟨name, password'⟩ := by
  obtain ⟨t, logins⟩ := h
  cases logins with
  | none => exact .inl ⟨_, rfl, rfl⟩
  | @some login login' logins =>
    cases logins with
    | same =>
      unfold ofTarget
      cases (Option.some login).bind fun c => c.passwordValue.map (Login.mk c.username) with
      | none => exact .inl ⟨_, rfl, rfl⟩
      | some login => exact .inr ⟨login.name, login.password, login.password, rfl, rfl⟩
    | @passwords username password password' keyPath key present present' =>
      refine .inr ⟨username, password, password', ?_, ?_⟩
      · simp only [ofTarget, Option.bind_some, Credentials.passwordValue_some present,
          Option.map_some]
      · simp only [ofTarget, Option.bind_some, Credentials.passwordValue_some present',
          Option.map_some]

inductive Session.Alike : Session → Session → Prop
  | intro {i i' : Ntlm.Identity} (h : i.Alike i') (endpoint shell : String) :
      Alike ⟨i, endpoint, shell⟩ ⟨i', endpoint, shell⟩

inductive Connection.Alike : Connection → Connection → Prop
  | intro (phase : Link.Phase) (host : String) {session session' : Option Session}
      (h : Option.Rel Session.Alike session session') :
      Alike ⟨phase, session, host⟩ ⟨phase, session', host⟩

/-! ## What sessions alike do -/

namespace Session

variable {s s' : Session}

theorem execute_alike (h : s.Alike s') (line : String) : s.execute line = s'.execute line := by
  cases h
  rfl

theorem executeStep_alike (h : s.Alike s') (line : String) :
    s.executeStep line = s'.executeStep line := by
  rw [executeStep, executeStep, execute_alike h]

theorem executeSteps_alike (h : s.Alike s') (lines : List String) :
    s.executeSteps lines = s'.executeSteps lines := by
  induction lines with
  | nil => rfl
  | cons line lines ih => rw [executeSteps, executeSteps, executeStep_alike h, ih]

theorem run_alike (h : s.Alike s') (id : String) (command : Command) :
    s.run id command = s'.run id command := by
  have staged (script : StagedScript) : s.executeStaged script = s'.executeStaged script := by
    simp only [executeStaged, fillAndRun, executeStep_alike h, executeSteps_alike h,
      execute_alike h]
  have carried (plan : Plan) : s.carryOut plan = s'.carryOut plan := by
    cases plan with
    | single line => exact execute_alike h line
    | staged script => exact staged script
  rw [run, run, carried]

theorem close_alike (h : s.Alike s') : s.close = s'.close := by
  cases h
  rfl

/-- Opening sends the same for logins by one name, and comes to sessions alike. -/
theorem open_alike (station : Station) {t t' : Target} (h : t.Alike t')
    (name password password' : String) (w : Wire) :
    (∃ fault w', Session.open station t ⟨name, password⟩ w = (.error fault, w') ∧
      Session.open station t' ⟨name, password'⟩ w = (.error fault, w')) ∨
    ∃ session session' w', Session.open station t ⟨name, password⟩ w = (.ok session, w') ∧
      Session.open station t' ⟨name, password'⟩ w = (.ok session', w') ∧ session.Alike session' := by
  obtain ⟨-, endpoint, pause, attempts, settings⟩ := h.common
  have certificate : checkCertificate station t = checkCertificate station t' := by
    simp only [checkCertificate, checkClient, settings]
  unfold Session.open
  rw [certificate, endpoint, pause, attempts]
  cases checkCertificate station t' with
  | error fault => exact .inl ⟨fault, w, rfl, rfl⟩
  | ok _ =>
    simp only [bind, StateT.bind]
    rcases Link.retry (Wire.pause t'.pause.toNat) (createShell t'.endpoint) t'.retryAttempts w
      with ⟨answer, w'⟩
    cases answer with
    | error fault => exact .inl ⟨fault, w', rfl, rfl⟩
    | ok shell => exact .inr ⟨_, _, w', rfl, rfl, .intro (.intro _ _ _ _ _) _ _⟩

end Session

/-! ## What connections alike do -/

namespace Connection

variable {c c' : Connection}

theorem connect_alike (h : c.Alike c') {t t' : Target} (targets : t.Alike t') (station : Station)
    (w : Wire) :
    ∃ answer d d' w', c.connect station t w = ((answer, d), w') ∧
      c'.connect station t' w = ((answer, d'), w') ∧ d.Alike d' := by
  have kept := h
  obtain ⟨phase, host, sessions⟩ := h
  unfold connect
  cases phase.hasSession with
  | true => exact ⟨_, _, _, w, rfl, rfl, kept⟩
  | false =>
    simp only [Bool.false_eq_true, if_false]
    rcases Login.ofTarget_alike targets with
      ⟨fault, failed, failed'⟩ | ⟨name, password, password', found, found'⟩
    · rw [failed, failed']
      exact ⟨_, _, _, w, rfl, rfl, kept⟩
    · rw [found, found']
      simp only [bind, StateT.bind]
      rcases Session.open_alike station targets name password password' w with
        ⟨fault, w', failed, failed'⟩ | ⟨session, session', w', opened, opened', alike⟩
      · rw [failed, failed']
        exact ⟨_, _, _, w', rfl, rfl, kept⟩
      · rw [opened, opened', ← targets.common.1]
        exact ⟨_, _, _, w', rfl, rfl, .intro .connected t.address (.some alike)⟩

theorem disconnect_alike (h : c.Alike c') (w : Wire) :
    ∃ answer d d' w', c.disconnect w = ((answer, d), w') ∧
      c'.disconnect w = ((answer, d'), w') ∧ d.Alike d' := by
  have kept := h
  obtain ⟨phase, host, sessions⟩ := h
  unfold disconnect
  cases phase.hasSession with
  | false => exact ⟨_, _, _, w, rfl, rfl, kept⟩
  | true =>
    simp only [if_true]
    cases sessions with
    | none => exact ⟨_, _, _, w, rfl, rfl, .intro .disconnected host .none⟩
    | some alike =>
      dsimp only
      rw [Session.close_alike alike]
      exact ⟨_, _, _, _, rfl, rfl, .intro .disconnected host .none⟩

theorem move_alike (h : c.Alike c') (m : Link.Move) :
    (c.move m).1 = (c'.move m).1 ∧ (c.move m).2.Alike (c'.move m).2 := by
  obtain ⟨phase, host, sessions⟩ := h
  exact ⟨rfl, .intro _ host sessions⟩

theorem run_alike (h : c.Alike c') (id : String) (command : Command) :
    c.run id command = c'.run id command := by
  obtain ⟨phase, host, sessions⟩ := h
  cases sessions with
  | none => rfl
  | some alike =>
    unfold run
    dsimp only
    cases phase.ensureRunnable with
    | error fault => rfl
    | ok _ => exact Session.run_alike alike id command

theorem shown_alike (h : c.Alike c') : c.phase = c'.phase ∧ c.shown = c'.shown := by
  obtain ⟨phase, host, sessions⟩ := h
  refine ⟨rfl, ?_⟩
  cases sessions with
  | none => rfl
  | some alike =>
    cases alike
    rfl

end Connection

end WinRm

/-! ## Runs, as they are seen -/

/-- Who speaks in a call on a connection over WinRM: a connect speaks for the login of its target,
every other call for that of the session. -/
def Connection.speaker (station : Station) : Connection → Call → Option WinRm.Ntlm.Identity
  | .winRm _, .connect t => (WinRm.Login.ofTarget t).toOption.map fun login =>
      .ofLogin station.workstation login.name login.password
  | .winRm c, .disconnect | .winRm c, .move _ | .winRm c, .run _ => c.session.map (·.identity)
  | .ssh _, _ => none

/-- The exchange of an event, unless it is a pause. -/
def WinRm.Event.exchange? : WinRm.Event → Option WinRm.Exchange
  | .exchange e => some e
  | .pause _ => none

/-- **What is seen of a call.** -/
structure Seen where
  /-- What has happened on the wire: requests, what came from outside, and pauses. -/
  events : List WinRm.Event
  /-- What has been posted. -/
  posts : List WinRm.Post
  reply : Reply
  /-- Where the connection stands then, and what is shown of it. -/
  phase : Link.Phase
  shown : String

namespace Connection

/-- What is seen of a call that is met by surroundings. -/
def see (c : Connection) (call : Call) (s : Surroundings) : Seen :=
  let events := (c.take call s).2.winRm.events.drop s.winRm.events.length
  { events
    posts := (c.speaker s.station call).toList.flatMap fun i =>
      (events.filterMap WinRm.Event.exchange?).flatMap (·.posts i)
    reply := (c.take call s).1.1
    phase := (c.take call s).1.2.phase
    shown := (c.take call s).1.2.shown }

/-- **What is seen of calls**, one after another. -/
def watch (c : Connection) : List Call → Surroundings → List Seen
  | [], _ => []
  | call :: calls, s => c.see call s :: (c.take call s).1.2.watch calls (c.take call s).2

end Connection

/-- Seen alike: the same, but for the proofs in what is posted. -/
structure Seen.Alike (a a' : Seen) : Prop where
  events : a.events = a'.events
  posts : List.Forall₂ WinRm.Post.Alike a.posts a'.posts
  reply : a.reply = a'.reply
  phase : a.phase = a'.phase
  shown : a.shown = a'.shown

/-- Connections alike take calls alike in the same way, and for speakers alike. -/
theorem Connection.take_alike {c c' : WinRm.Connection} (h : c.Alike c') {call call' : Call}
    (calls : call.Alike call') (s : Surroundings) :
    ∃ reply s', ∃ d d' : WinRm.Connection,
      (Connection.winRm c).take call s = ((reply, .winRm d), s') ∧
      (Connection.winRm c').take call' s = ((reply, .winRm d'), s') ∧ d.Alike d' ∧
      Option.Rel WinRm.Ntlm.Identity.Alike ((Connection.winRm c).speaker s.station call)
        ((Connection.winRm c').speaker s.station call') := by
  have kept : Option.Rel WinRm.Ntlm.Identity.Alike (c.session.map (·.identity))
      (c'.session.map (·.identity)) := by
    obtain ⟨phase, host, sessions⟩ := h
    cases sessions with
    | none => exact .none
    | some alike =>
      obtain ⟨identities, endpoint, shell⟩ := alike
      exact .some identities
  cases calls with
  | connect targets =>
    obtain ⟨answer, d, d', w', run, run', alike⟩ :=
      WinRm.Connection.connect_alike h targets s.station s.winRm
    refine ⟨_, _, d, d', take_connect_winRm run, take_connect_winRm run', alike, ?_⟩
    rcases WinRm.Login.ofTarget_alike targets with
      ⟨fault, failed, failed'⟩ | ⟨name, password, password', found, found'⟩
    · simp only [speaker, failed, failed']
      exact .none
    · simp only [speaker, found, found']
      exact .some (.intro _ _ _ _ _)
  | disconnect =>
    obtain ⟨answer, d, d', w', run, run', alike⟩ := WinRm.Connection.disconnect_alike h s.winRm
    refine ⟨answer.map fun _ => none, { s with winRm := w' }, d, d', ?_, ?_, alike, kept⟩
    · simp only [take, disconnect, Surroundings.onWinRm, bind, StateT.bind, Surroundings.pure_eq,
        run]
    · simp only [take, disconnect, Surroundings.onWinRm, bind, StateT.bind, Surroundings.pure_eq,
        run']
  | move m =>
    obtain ⟨answer, alike⟩ := WinRm.Connection.move_alike h m
    refine ⟨(c.move m).1.map fun _ => none, s, _, _, rfl, ?_, alike, kept⟩
    rw [answer]
    rfl
  | run command =>
    have same := WinRm.Connection.run_alike h (s.scriptId s.usedIds) command
    refine ⟨_, _, c, c', rfl, ?_, h, kept⟩
    show ((((c'.run (s.scriptId s.usedIds) command) s.winRm).1.map some, winRm c'),
      { s with
        winRm := ((c'.run (s.scriptId s.usedIds) command) s.winRm).2, usedIds := s.usedIds + 1 }) = _
    rw [← same]
    rfl

theorem WinRm.Session.identity_of_open {station : Station} {t : Target} {login : WinRm.Login}
    {w w' : WinRm.Wire} {session : WinRm.Session}
    (h : WinRm.Session.open station t login w = (.ok session, w')) :
    session.identity = .ofLogin station.workstation login.name login.password := by
  unfold WinRm.Session.open at h
  cases certificate : WinRm.checkCertificate station t with
  | error fault =>
    rw [certificate] at h
    cases h
  | ok _ =>
    rw [certificate] at h
    simp only [bind, StateT.bind] at h
    rcases came : Link.retry (WinRm.Wire.pause t.pause.toNat) (WinRm.createShell t.endpoint)
      t.retryAttempts w with ⟨answer, w''⟩
    rw [came] at h
    cases answer with
    | error fault => cases h
    | ok shell =>
      cases h
      rfl

/-- **A session speaks for the login that it was opened with.** -/
theorem Connection.speaker_of_connect {c c' : WinRm.Connection} {t : Target} {s : Surroundings}
    {w : WinRm.Wire} (apart : c.phase.hasSession = false)
    (run : c.connect s.station t s.winRm = ((.ok (), c'), w)) :
    c'.session.map (·.identity) = (Connection.winRm c).speaker s.station (.connect t) := by
  unfold WinRm.Connection.connect at run
  rw [apart] at run
  simp only [Bool.false_eq_true, if_false] at run
  cases found : WinRm.Login.ofTarget t with
  | error fault =>
    rw [found] at run
    cases run
  | ok login =>
    rw [found] at run
    simp only [bind, StateT.bind] at run
    rcases came : WinRm.Session.open s.station t login s.winRm with ⟨answer, w'⟩
    rw [came] at run
    cases answer with
    | error fault => cases run
    | ok session =>
      cases run
      simp only [speaker, found]
      exact congrArg some (WinRm.Session.identity_of_open came)

/-- A call goes on along the wire. -/
theorem Connection.onward_take (c : WinRm.Connection) (call : Call) (s : Surroundings) :
    s.winRm.Onward ((Connection.winRm c).take call s).2.winRm := by
  cases call with
  | connect t => exact c.onwards_connect s.station t s.winRm
  | disconnect => exact c.onwards_disconnect s.winRm
  | move m => exact .refl _
  | run command => exact c.onwards_run (s.scriptId s.usedIds) command s.winRm

/-- **Where nobody speaks, nothing happens on the wire**, so what is posted is all that there is. -/
theorem Connection.events_of_speechless {c : WinRm.Connection} {call : Call} {s : Surroundings}
    (h : (Connection.winRm c).speaker s.station call = none) :
    ((Connection.winRm c).see call s).events = [] := by
  have quiet : ((Connection.winRm c).take call s).2.winRm = s.winRm := by
    cases call with
    | connect t =>
      cases found : WinRm.Login.ofTarget t with
      | ok login =>
        simp only [speaker, found] at h
        cases h
      | error fault =>
        have same : (c.connect s.station t s.winRm).2 = s.winRm := by
          unfold WinRm.Connection.connect
          rw [found]
          cases c.phase.hasSession <;> rfl
        exact same
    | disconnect =>
      have none : c.session = none := Option.map_eq_none_iff.mp h
      have same : (c.disconnect s.winRm).2 = s.winRm := by
        unfold WinRm.Connection.disconnect
        rw [none]
        cases c.phase.hasSession <;> rfl
      exact same
    | move m => rfl
    | run command =>
      have none : c.session = none := Option.map_eq_none_iff.mp h
      have same : (c.run (s.scriptId s.usedIds) command s.winRm).2 = s.winRm := by
        unfold WinRm.Connection.run
        rw [none]
        cases c.phase.ensureRunnable <;> rfl
      exact same
  rw [see, quiet, List.drop_length]

/-! ## Two runs -/

theorem WinRm.Ending.length_clientChallenge (e : WinRm.Ending) :
    e.turn.clientChallenge.length = 8 := by
  cases e <;> rfl

theorem Connection.see_alike {c c' : WinRm.Connection} (h : c.Alike c') {call call' : Call}
    (calls : call.Alike call') {s : Surroundings}
    (eight : ∀ turn ∈ s.winRm.turns, turn.clientChallenge.length = 8) :
    ((Connection.winRm c).see call s).Alike ((Connection.winRm c').see call' s) := by
  obtain ⟨reply, s', d, d', run, run', alike, speakers⟩ := take_alike h calls s
  obtain ⟨phase, shown⟩ := WinRm.Connection.shown_alike alike
  have onward := onward_take c call s
  rw [run] at onward
  obtain ⟨news, events, drawn⟩ := onward.events
  have new : s'.winRm.events.drop s.winRm.events.length = news := by
    rw [events, List.drop_left]
  unfold see
  generalize (Connection.winRm c).speaker s.station call = who at speakers ⊢
  generalize (Connection.winRm c').speaker s.station call' = who' at speakers ⊢
  rw [run, run']
  refine ⟨rfl, ?_, rfl, phase, shown⟩
  dsimp only
  rw [new]
  have eights : ∀ e ∈ news.filterMap WinRm.Event.exchange?, e.turn.clientChallenge.length = 8 := by
    intro e among
    obtain ⟨event, happened, told⟩ := List.mem_filterMap.mp among
    cases event with
    | pause => cases told
    | exchange e =>
      cases told
      rcases drawn e happened with early | late
      · exact eight e.turn early
      · rw [late]
        exact s.winRm.ending.length_clientChallenge
  cases speakers with
  | none => exact .nil
  | some identities =>
    simp only [Option.toList_some, List.flatMap_singleton]
    exact WinRm.flatMap_posts_alike eights identities

/-- Runs of connections alike. By induction on the calls; what is left of the wire's turns is among
those there were. -/
theorem Connection.watch_alike {calls calls' : List Call}
    (alike : List.Forall₂ Call.Alike calls calls') {c c' : WinRm.Connection} (h : c.Alike c') {s : Surroundings}
    (eight : ∀ turn ∈ s.winRm.turns, turn.clientChallenge.length = 8) :
    List.Forall₂ Seen.Alike ((Connection.winRm c).watch calls s)
      ((Connection.winRm c').watch calls' s) := by
  induction alike generalizing c c' s with
  | nil => exact .nil
  | @cons call call' calls calls' first more ih =>
    obtain ⟨reply, s', d, d', run, run', same, -⟩ := take_alike h first s
    have onward := onward_take c call s
    unfold watch
    rw [run, run']
    rw [run] at onward
    refine .cons (see_alike h first eight) (ih same ?_)
    intro turn among
    exact eight turn (onward.turns among)

/-! ## What is shown of logins and targets -/

/-- Logins that differ in nothing but what a password or a key is, not in whether it is there. -/
structure Credentials.Veiled (c c' : Credentials) : Prop where
  username : c.username = c'.username
  password : c.password.isSome = c'.password.isSome
  keyPath : c.keyPath = c'.keyPath
  key : c.key.isSome = c'.key.isSome

/-- Targets with such logins, and otherwise equal. -/
inductive Target.Veiled : Target → Target → Prop
  | intro (t : Target) {login login' : Option Credentials}
      (h : Option.Rel Credentials.Veiled login login') :
      Veiled { t with credentials := login } { t with credentials := login' }

theorem Credentials.shownOption_redacted {o o' : Option String} (h : o.isSome = o'.isSome) :
    shownOption redacted o = shownOption redacted o' := by
  cases o with
  | none =>
    cases o' with
    | none => rfl
    | some => cases h
  | some =>
    cases o' with
    | none => cases h
    | some => rfl

theorem Credentials.Veiled.shown {c c' : Credentials} (h : c.Veiled c') : c.shown = c'.shown := by
  unfold Credentials.shown
  rw [h.username, h.keyPath, shownOption_redacted h.password, shownOption_redacted h.key]

theorem Target.Veiled.shown {t t' : Target} (h : t.Veiled t') : t.shown = t'.shown := by
  cases h with
  | @intro t login login' logins =>
    have same : login.map Credentials.shown = login'.map Credentials.shown := by
      cases logins with
      | none => rfl
      | some veiled => exact congrArg some veiled.shown
    unfold Target.shown
    rw [same]

/-- **The password reaches nothing but the proofs.** Two runs of calls on a new connection, alike but
for passwords that are not empty, on the same wire and with the same names and values from outside:
what is seen is the same, call by call, but for the digests at 88 and at 112 of third messages. And
what is shown of logins and of targets is the same whatever a password or a key is. -/
theorem password_reaches_proofs_only {calls calls' : List Call}
    (alike : List.Forall₂ Call.Alike calls calls') {s : Surroundings}
    (eight : ∀ turn ∈ s.winRm.turns, turn.clientChallenge.length = 8) :
    List.Forall₂ Seen.Alike ((Connection.new .winRm).watch calls s)
      ((Connection.new .winRm).watch calls' s) ∧
    (∀ c c' : Credentials, c.Veiled c' → c.shown = c'.shown) ∧
    ∀ t t' : Target, t.Veiled t' → t.shown = t'.shown := by
  refine ⟨?_, ?_, ?_⟩
  · exact Connection.watch_alike alike (.intro .disconnected "" .none) eight
  · intro c c' veiled
    exact veiled.shown
  · intro t t' veiled
    exact veiled.shown

/-- A target that is logged in to by a password. -/
def sampleTarget (password : String) : Target :=
  { address := "10.0.0.7", transport := .winRm, credentials := some (.ofPassword "ada" password) }

/-- Surroundings in which a shell is brought at once. -/
def sampleSurroundings : Surroundings :=
  let turn : WinRm.Turn := ⟨"m1", Bytes.zeros 8, 0, .replied WinRm.challengeReply,
    .replied ⟨200, [], "<rsp:ShellId>S1</rsp:ShellId>"⟩⟩
  { Surroundings.offline (.plain "desk" fun _ => .error Surroundings.noNetwork) "" with
    winRm := { turns := [turn], ending := .silent } }

theorem password_reaches_proofs_only_sample :
    List.Forall₂ Seen.Alike
      ((Connection.new .winRm).watch [.connect (sampleTarget "s3cret"), .disconnect] sampleSurroundings)
      ((Connection.new .winRm).watch [.connect (sampleTarget "hunter2"), .disconnect]
        sampleSurroundings) := by
  have logins : (Credentials.ofPassword "ada" "s3cret").Alike (.ofPassword "ada" "hunter2") :=
    .passwords "ada" none none (by decide) (by decide)
  have targets : (sampleTarget "s3cret").Alike (sampleTarget "hunter2") :=
    .intro (sampleTarget "") (.some logins)
  refine (password_reaches_proofs_only (.cons (.connect targets) (.cons .disconnect .nil)) ?_).1
  intro turn among
  cases List.mem_singleton.mp among
  rfl

end Hostlink
