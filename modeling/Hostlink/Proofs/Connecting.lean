import Hostlink.Proofs.Fault.Refusal
import Hostlink.Proofs.Link.Retry
import Hostlink.Proofs.WinRm.Handshake
import Hostlink.Ssh.Connection

/-!
# Connect attempts

Connecting is a run of attempts on either transport, and what an attempt is differs: a dial with a
login behind it, or a request to create a shell. What the two have in common is that an attempt which
is tried again never came to a verdict on the login. A dial that was refused asks for no login, and a
request on which a leg was refused is not answered; so the verdict of a target is asked for in the
last attempt only, whatever the budget.

The inputs that are found here come first. Where one is missing, or where there is a session already,
nothing is sent. Which keys and certificates can be read is up to the station, and the laws hold for
any.
-/

namespace Hostlink

/-! ## The login by SSH -/

/-- **The method that credentials choose**: the password, else the key file, else the key that they
hold. What is empty is not there. -/
inductive Credentials.Chooses (c : Credentials) : SshMethod → Prop
  | password {secret : String} (given : c.passwordValue = some secret) :
      Chooses c (.password secret)
  | keyFile {path : String} (noPassword : c.passwordValue = none)
      (given : c.keyPath.filter (!·.isEmpty) = some path) : Chooses c (.keyFile path)
  | inlineKey {text : String} (noPassword : c.passwordValue = none)
      (noFile : c.keyPath.filter (!·.isEmpty) = none)
      (given : c.key.filter (fun k => !(Text.trim k).isEmpty) = some text) :
      Chooses c (.inlineKey text)

theorem Credentials.sshMethod_eq_some_iff {c : Credentials} {method : SshMethod} :
    c.sshMethod = some method ↔ c.Chooses method := by
  constructor
  · intro h
    unfold sshMethod at h
    cases password : c.passwordValue with
    | some secret =>
      rw [password] at h
      cases h
      exact .password password
    | none =>
      cases file : c.keyPath.filter (!·.isEmpty) with
      | some path =>
        rw [password, file] at h
        cases h
        exact .keyFile password file
      | none =>
        rw [password, file] at h
        obtain ⟨text, given, rfl⟩ := Option.map_eq_some_iff.mp h
        exact .inlineKey password file given
  · intro h
    cases h with
    | password given => simp only [sshMethod, given]
    | keyFile noPassword given => simp only [sshMethod, noPassword, given]
    | inlineKey noPassword noFile given =>
      simp only [sshMethod, noPassword, noFile, given, Option.map_some]

namespace Ssh

/-- **What a method proves a login by**, read and decoded. -/
inductive Proof.Proves (station : Station) : SshMethod → Proof → Prop
  | password (secret : String) : Proves station (.password secret) (.password secret)
  | keyFile {path text : String} {key : Key} (readable : station.readText path = .ok text)
      (decoded : station.readKey text = .ok key) : Proves station (.keyFile path) (.publicKey key)
  | inlineKey {text : String} {key : Key} (decoded : station.readKey text = .ok key) :
      Proves station (.inlineKey text) (.publicKey key)

theorem Proof.ofCredentials_eq_ok_iff {station : Station} {c : Credentials} {proof : Proof} :
    Proof.ofCredentials station c = .ok proof ↔
      ∃ method, c.Chooses method ∧ Proves station method proof := by
  simp only [← Credentials.sshMethod_eq_some_iff]
  constructor
  · intro h
    unfold ofCredentials at h
    dsimp only at h
    split at h
    next => cases h
    next secret chosen =>
      cases h
      exact ⟨_, chosen, .password secret⟩
    next text chosen =>
      split at h
      next key decoded =>
        cases h
        exact ⟨_, chosen, .inlineKey decoded⟩
      next => cases h
    next path chosen =>
      split at h
      next => cases h
      next text readable =>
        split at h
        next key decoded =>
          cases h
          exact ⟨_, chosen, .keyFile readable decoded⟩
        next => cases h
  · rintro ⟨method, chosen, proves⟩
    cases proves with
    | password secret => simp only [ofCredentials, chosen]
    | keyFile readable decoded => simp only [ofCredentials, chosen, readable, decoded]
    | inlineKey decoded => simp only [ofCredentials, chosen, decoded]

/-- **The login of a target**, if all that it needs is there. -/
def Login.Chosen (station : Station) (t : Target) (l : Login) : Prop :=
  ∃ c method, t.credentials = some c ∧ c.Chooses method ∧ l.user = c.username ∧
    l.proof.Proves station method

theorem Login.ofTarget_eq_ok_iff {station : Station} {t : Target} {l : Login} :
    Login.ofTarget station t = .ok l ↔ l.Chosen station t := by
  constructor
  · intro h
    unfold ofTarget at h
    split at h
    next => cases h
    next c credentials =>
      cases proof : Proof.ofCredentials station c with
      | error fault => rw [proof] at h; cases h
      | ok p =>
        rw [proof] at h
        cases h
        obtain ⟨method, chosen, proves⟩ := Proof.ofCredentials_eq_ok_iff.mp proof
        exact ⟨c, method, credentials, chosen, rfl, proves⟩
  · rintro ⟨c, method, credentials, chosen, user, proves⟩
    have proof := Proof.ofCredentials_eq_ok_iff.mpr ⟨method, chosen, proves⟩
    simp only [ofTarget, credentials, proof, Except.map, ← user]

/-! ## Dialling -/

/-- What an attempt comes to whose dial leads there. -/
def Dial.session (address : String) (l : Login) (d : Dial) : Attempt Session :=
  (establish address l { later := d }).1

/-- What an attempt records whose dial leads there. -/
def Dial.events (l : Login) (d : Dial) : List Event :=
  .dial d ::
    match d with
    | .reached answer => [.login l (answer l)]
    | .failed _ | .unready _ | .stalled | .garbled _ => []

/-- The login that a server is asked for. -/
def Event.login? : Event → Option Login
  | .login l _ => some l
  | .dial _ | .opening _ | .exec _ | .closing _ | .pause _ => none

/-- An attempt is what its dial makes of it. -/
theorem establish_attempt (address : String) (l : Login) (w : Wire) :
    ∃ d : Dial, (establish address l w).1 = d.session address l ∧
      (establish address l w).2.events = w.events ++ d.events l := by
  have dialled : ∃ d rest, Wire.dial w =
      (d, { w with dials := rest, lost := false, events := w.events ++ [.dial d] }) := ⟨_, _, rfl⟩
  obtain ⟨d, rest, dialled⟩ := dialled
  refine ⟨d, ?_⟩
  unfold Dial.session establish
  simp only [bind, StateT.bind, dialled]
  cases d with
  | failed | unready | stalled | garbled => exact ⟨rfl, rfl⟩
  | reached answer =>
    have asked : (w.events ++ [Event.dial (.reached answer)]) ++ [.login l (answer l)] =
        w.events ++ Dial.events l (.reached answer) := List.append_assoc ..
    simp only [Wire.login, Wire.record, Wire.dial, bind, StateT.bind]
    cases given : answer l with
    | accepted | rejected | gone | failed =>
      rw [given] at asked
      exact ⟨rfl, asked⟩

/-- **A refused dial**: what the system says of it leads to a refused connection. -/
def Dial.Refused (d : Dial) : Prop :=
  ∃ cause : IoFault, cause.LeadsToRefusal ∧ (d = .failed cause ∨ d = .unready cause)

/-- **An attempt that is refused is a dial that is refused.** -/
theorem Dial.refused_of_session {address : String} {l : Login} {d : Dial} {fault : LinkFault}
    (failed : d.session address l = .error fault) (refusal : fault.isRefused = true) :
    d.Refused := by
  cases d with
  | failed cause =>
    cases failed
    exact ⟨cause, cause.isRefused_iff.mp refusal, .inl rfl⟩
  | unready cause =>
    cases failed
    exact ⟨cause, cause.isRefused_iff.mp refusal, .inr rfl⟩
  | stalled =>
    cases failed
    cases refusal
  | garbled reason =>
    cases failed
    cases refusal
  | reached answer =>
    -- whatever a server answers to the login, a fault of it is no refusal
    simp only [session, establish, Wire.dial, Wire.login, Wire.record, bind, StateT.bind] at failed
    cases given : answer l with
    | accepted => rw [given] at failed; cases failed
    | rejected | gone | failed => rw [given] at failed; cases failed; cases refusal

theorem Dial.logins_of_refused {d : Dial} (h : d.Refused) (l : Login) :
    (d.events l).filterMap Event.login? = [] := by
  obtain ⟨cause, _, rfl | rfl⟩ := h
  · rfl
  · rfl

theorem Dial.logins_sublist (d : Dial) (l : Login) :
    ((d.events l).filterMap Event.login?).Sublist [l] := by
  cases d with
  | failed | unready | stalled | garbled => exact List.nil_sublist _
  | reached answer => exact List.Sublist.refl _

theorem Wire.events_pause (seconds : Nat) (w : Wire) :
    (Wire.pause seconds w).2.events = w.events ++ [.pause seconds] := rfl

/-- **Connecting dials**: the attempts of a connect without a session whose login is there. -/
theorem Connection.connect_dials {c : Connection} {station : Station} {t : Target} {l : Login}
    (apart : c.phase.hasSession = false) (chosen : l.Chosen station t) (w : Wire) :
    ∃ tries : Link.Tries (Dial.session t.socketAddress l) t.retryAttempts,
      (c.connect station t w).1.1 = (tries.last.session t.socketAddress l).map (fun _ => ()) ∧
      (c.connect station t w).2.events = w.events ++
        [Event.pause t.pause.toNat].intercalate (tries.all.map (Dial.events l)) := by
  obtain ⟨tries, answer, events⟩ := Link.retry_tries Wire.events
    (establish_attempt t.socketAddress l) (Wire.events_pause t.pause.toNat) t.retryAttempts w
  refine ⟨tries, ?_⟩
  rw [← answer, ← events]
  simp only [connect, apart, Bool.false_eq_true, if_false, Login.ofTarget_eq_ok_iff.mpr chosen, bind,
    StateT.bind]
  rcases Link.retry (Wire.pause t.pause.toNat) (establish t.socketAddress l) t.retryAttempts w with
    ⟨outcome, w'⟩
  cases outcome with
  | error | ok => exact ⟨rfl, rfl⟩

/-- Without a login, or with a session, connecting does nothing on the wire. -/
theorem Connection.connect_quiet {c : Connection} {station : Station} {t : Target}
    (h : c.phase.hasSession = true ∨ ∀ l : Login, ¬ l.Chosen station t) (w : Wire) :
    (c.connect station t w).2 = w := by
  unfold connect
  cases present : c.phase.hasSession with
  | true => rfl
  | false =>
    cases resolved : Login.ofTarget station t with
    | error fault => rfl
    | ok l =>
      rcases h with h | h
      · cases present.symm.trans h
      · exact absurd (Login.ofTarget_eq_ok_iff.mp resolved) (h l)

end Ssh

namespace WinRm

/-- **A verdict on the login**: the endpoint answers the leg that proves it. -/
def Turn.Judged (t : Turn) : Prop :=
  (∃ c, t.Challenged c) ∧ ∃ r, t.authenticate.ending = .replied r

/-- **A refused turn**: what the system says of one of its legs leads to a refused connection. -/
def Turn.Refused (t : Turn) : Prop :=
  ∃ layers cause, IoFault.LeadsToRefusal cause ∧
    (t.negotiate.ending = .broken layers (some cause) ∨
      t.authenticate.ending = .broken layers (some cause))

theorem fault_of_shellId {reply : String} {fault : LinkFault} (h : shellId reply = .error fault) :
    ∃ reason, fault = .shellCreation reason := by
  unfold shellId at h
  dsimp only at h
  split at h
  next =>
    split at h
    next => cases h; exact ⟨_, rfl⟩
    next => cases h
  next => cases h; exact ⟨_, rfl⟩

/-- What is told of a shell that could not be created is never a refusal. -/
theorem Turn.createdShell_of_response {t : Turn} {endpoint : String} {r : Response}
    (answered : t.response endpoint = .ok r) {fault : LinkFault}
    (failed : t.createdShell endpoint = .error fault) : ∃ reason, fault = .shellCreation reason := by
  unfold createdShell call at failed
  simp only [answered] at failed
  split at failed
  next reply called =>
    cases failed
    split at called
    next => cases called
    next =>
      cases called
      exact ⟨_, rfl⟩
  next reply called => exact fault_of_shellId failed

/-- **A request to create a shell that is refused** takes a refused turn, in which the endpoint has
not judged the login. -/
theorem Turn.refused_of_createdShell {t : Turn} {endpoint : String} {fault : LinkFault}
    (failed : t.createdShell endpoint = .error fault) (refusal : fault.isRefused = true) :
    t.Refused ∧ ¬ t.Judged := by
  cases answered : t.response endpoint with
  | ok r =>
    obtain ⟨reason, rfl⟩ := Turn.createdShell_of_response answered failed
    cases refusal
  | error inner =>
    have told : fault = shellFault inner := by
      simp only [createdShell, call, answered] at failed
      cases failed
      rfl
    subst told
    rcases Turn.fault_of_response answered with ⟨layers, root, rfl, broke⟩ | ⟨reason, rfl⟩
    · cases root with
      | none => cases refusal
      | some cause =>
        have led := cause.isRefused_iff.mp refusal
        rcases broke with first | ⟨_, second⟩
        · refine ⟨⟨layers, cause, led, .inl first⟩, ?_⟩
          rintro ⟨⟨_, ⟨replied, _, _, _⟩⟩, _⟩
          cases first.symm.trans replied
        · refine ⟨⟨layers, cause, led, .inr second⟩, ?_⟩
          rintro ⟨_, _, judged⟩
          cases second.symm.trans judged
    · cases refusal

/-- What an attempt records that takes a turn. -/
def Turn.createEvents (endpoint : String) (t : Turn) : List Event :=
  [.exchange ⟨endpoint, .create, t⟩]

theorem createShell_attempt (endpoint : String) (w : Wire) :
    ∃ t : Turn, (createShell endpoint w).1 = t.createdShell endpoint ∧
      (createShell endpoint w).2.events = w.events ++ t.createEvents endpoint := by
  have taken : ∃ t rest, Wire.exchange endpoint .create w = (t, { w with
      turns := rest, events := w.events ++ [.exchange ⟨endpoint, .create, t⟩] }) := ⟨_, _, rfl⟩
  obtain ⟨t, rest, taken⟩ := taken
  refine ⟨t, ?_⟩
  unfold createShell Wire.call Turn.createdShell
  simp only [bind, StateT.bind, taken]
  cases t.call endpoint with
  | error | ok => exact ⟨rfl, rfl⟩

theorem Wire.events_pause (seconds : Nat) (w : Wire) :
    (Wire.pause seconds w).2.events = w.events ++ [.pause seconds] := rfl

/-- **Connecting asks for a shell**: the attempts of a connect without a session whose login and
certificate are there. -/
theorem Connection.connect_asks {c : Connection} {station : Station} {t : Target} {l : Login}
    (apart : c.phase.hasSession = false) (login : Login.ofTarget t = .ok l)
    (trusted : checkCertificate station t = .ok ()) (w : Wire) :
    ∃ tries : Link.Tries (Turn.createdShell · t.endpoint) t.retryAttempts,
      (c.connect station t w).1.1 = (tries.last.createdShell t.endpoint).map (fun _ => ()) ∧
      (c.connect station t w).2.events = w.events ++
        [Event.pause t.pause.toNat].intercalate (tries.all.map (Turn.createEvents t.endpoint)) := by
  obtain ⟨tries, answer, events⟩ := Link.retry_tries Wire.events
    (createShell_attempt t.endpoint) (Wire.events_pause t.pause.toNat) t.retryAttempts w
  refine ⟨tries, ?_⟩
  rw [← answer, ← events]
  simp only [connect, apart, Bool.false_eq_true, if_false, login, Session.open, trusted, bind,
    StateT.bind]
  rcases Link.retry (Wire.pause t.pause.toNat) (createShell t.endpoint) t.retryAttempts w with
    ⟨outcome, w'⟩
  cases outcome with
  | error | ok => exact ⟨rfl, rfl⟩

/-- Without a login or an acceptable certificate, or with a session, connecting does nothing on the
wire. -/
theorem Connection.connect_quiet {c : Connection} {station : Station} {t : Target}
    (h : c.phase.hasSession = true ∨ (∀ l, Login.ofTarget t ≠ .ok l) ∨
      checkCertificate station t ≠ .ok ()) (w : Wire) :
    (c.connect station t w).2 = w := by
  unfold connect
  cases present : c.phase.hasSession with
  | true => rfl
  | false =>
    cases login : Login.ofTarget t with
    | error fault => rfl
    | ok l =>
      cases trusted : checkCertificate station t with
      | error fault => simp only [Session.open, trusted]; rfl
      | ok _ =>
        rcases h with h | h | h
        · cases present.symm.trans h
        · exact absurd login (h l)
        · exact absurd trusted h

end WinRm

/-! ## Both transports -/

/-- **What connect attempts there are.**

On either transport, a connect without a session whose inputs are there makes at least one attempt
and no more than the target asks for, with one pause between each two. It answers what the last one
came to, and the attempts before that one found the connection refused: whatever else an attempt
comes to, there is none behind it. By SSH the target is asked for one login at most, the one that the
credentials choose; over WinRM no verdict on the login is had but in the last attempt. Where an input
is missing, or where there is a session, the wire is as before. -/
theorem connect_attempts :
    (∀ (c : Ssh.Connection) (station : Station) (t : Target) (w : Ssh.Wire),
      (c.phase.hasSession = true ∨ (∀ l : Ssh.Login, ¬ l.Chosen station t) →
        (c.connect station t w).2 = w) ∧
      ∀ l : Ssh.Login, c.phase = .disconnected → l.Chosen station t →
        ∃ (tries : Link.Tries (Ssh.Dial.session t.socketAddress l) t.retryAttempts)
          (sent : List Ssh.Event),
          (c.connect station t w).1.1 = (tries.last.session t.socketAddress l).map (fun _ => ()) ∧
          (c.connect station t w).2.events = w.events ++ sent ∧
          sent = [Ssh.Event.pause t.pause.toNat].intercalate (tries.all.map (Ssh.Dial.events l)) ∧
          1 ≤ tries.all.length ∧ tries.all.length ≤ max t.attempts.toNat 1 ∧
          (∀ d ∈ tries.earlier, d.Refused) ∧ (sent.filterMap Ssh.Event.login?).Sublist [l]) ∧
    ∀ (c : WinRm.Connection) (station : Station) (t : Target) (w : WinRm.Wire),
      (c.phase.hasSession = true ∨ (∀ l, WinRm.Login.ofTarget t ≠ .ok l) ∨
          WinRm.checkCertificate station t ≠ .ok () →
        (c.connect station t w).2 = w) ∧
      ∀ l, c.phase = .disconnected → WinRm.Login.ofTarget t = .ok l →
        WinRm.checkCertificate station t = .ok () →
        ∃ (tries : Link.Tries (WinRm.Turn.createdShell · t.endpoint) t.retryAttempts)
          (sent : List WinRm.Event),
          (c.connect station t w).1.1 = (tries.last.createdShell t.endpoint).map (fun _ => ()) ∧
          (c.connect station t w).2.events = w.events ++ sent ∧
          sent = [WinRm.Event.pause t.pause.toNat].intercalate
            (tries.all.map (WinRm.Turn.createEvents t.endpoint)) ∧
          1 ≤ tries.all.length ∧ tries.all.length ≤ max t.attempts.toNat 1 ∧
          ∀ turn ∈ tries.earlier, turn.Refused ∧ ¬ turn.Judged := by
  have budget : ∀ t : Target, max t.retryAttempts 1 = max t.attempts.toNat 1 := by
    intro t
    rw [Target.retryAttempts, Nat.max_assoc, Nat.max_self]
  constructor
  · intro c station t w
    refine ⟨fun h => c.connect_quiet h w, fun l apart chosen => ?_⟩
    have apart : c.phase.hasSession = false := by rw [apart]; rfl
    obtain ⟨tries, answer, events⟩ := Ssh.Connection.connect_dials apart chosen w
    obtain ⟨some, few⟩ := tries.length_bounds
    rw [budget] at few
    have refused : ∀ d ∈ tries.earlier, d.Refused := by
      intro d earlier
      obtain ⟨fault, failed, refusal⟩ := tries.refused d earlier
      exact Ssh.Dial.refused_of_session failed refusal
    refine ⟨tries, _, answer, events, rfl, some, few, refused, ?_⟩
    -- a refused dial asks for no login, so the logins are those of the last attempt
    rw [tries.filterMap_log rfl fun d earlier => Ssh.Dial.logins_of_refused (refused d earlier) l]
    exact tries.last.logins_sublist l
  · intro c station t w
    refine ⟨fun h => c.connect_quiet h w, fun l apart login trusted => ?_⟩
    have apart : c.phase.hasSession = false := by rw [apart]; rfl
    obtain ⟨tries, answer, events⟩ := WinRm.Connection.connect_asks apart login trusted w
    obtain ⟨some, few⟩ := tries.length_bounds
    rw [budget] at few
    refine ⟨tries, _, answer, events, rfl, some, few, fun turn earlier => ?_⟩
    obtain ⟨fault, failed, refusal⟩ := tries.refused turn earlier
    exact WinRm.Turn.refused_of_createdShell failed refusal

/-- A machine that holds one private key, in a file, and can read no other. -/
def Station.holding (path text : String) (key : Ssh.Key) : Station where
  workstation := "desk"
  read asked := if asked = path then .ok (Utf8.encode text) else .error (.code 2)
  readKey given := if given = text then .ok key else .error "unknown key"
  readCertificate _ := .ok ()
  buildClient _ _ := .ok ()

/-- A target that is tried five times. -/
def Target.sample (transport : Transport) (c : Credentials) : Target :=
  { address := "h", transport, attempts := 5, credentials := some c }

/-- A server that is up at the third dial, and rejects every login. -/
def Ssh.Wire.lateRejection : Ssh.Wire where
  dials := [.failed (.code 111), .unready (.code 111)]
  later := .reached fun _ => .rejected

/-- A login by a key that the machine does not hold and one by the key that it holds, and logins by
password, with a certificate that is not there and where no endpoint can be reached. -/
theorem connect_attempts_sample :
    let station := Station.holding "/keys/deploy" "the key" ⟨[7]⟩
    let login : Ssh.Login := ⟨"deploy", .publicKey ⟨[7]⟩⟩
    let byKey := Target.sample .ssh (.ofKeyFile "deploy" "/keys/deploy")
    let keyless := Target.sample .ssh (.ofKeyFile "deploy" "/keys/other")
    let byPassword := Target.sample .winRm (.ofPassword "deploy" "s3cret")
    let trusting := { byPassword with winRm := { certificatePath := some "/ca.pem" } }
    let met := Ssh.Connection.connect {} station byKey .lateRejection
    let asked := WinRm.Connection.connect {} station byPassword (.unreachable "" (.code 111))
    ((Ssh.Connection.connect {} station keyless .lateRejection).2 = .lateRejection ∧
      (WinRm.Connection.connect {} station trusting (.unreachable "" (.code 111))).2 =
        .unreachable "" (.code 111)) ∧
    (∃ tries : Link.Tries (Ssh.Dial.session byKey.socketAddress login) byKey.retryAttempts,
      met.1.1 = (tries.last.session byKey.socketAddress login).map (fun _ => ()) ∧
      met.2.events = [Ssh.Event.pause 1].intercalate (tries.all.map (Ssh.Dial.events login)) ∧
      1 ≤ tries.all.length ∧ tries.all.length ≤ 5 ∧ (∀ d ∈ tries.earlier, d.Refused) ∧
      (met.2.events.filterMap Ssh.Event.login?).Sublist [login]) ∧
    ∃ tries : Link.Tries (WinRm.Turn.createdShell · byPassword.endpoint) byPassword.retryAttempts,
      asked.1.1 = (tries.last.createdShell byPassword.endpoint).map (fun _ => ()) ∧
      asked.2.events = [WinRm.Event.pause 1].intercalate
        (tries.all.map (WinRm.Turn.createEvents byPassword.endpoint)) ∧
      1 ≤ tries.all.length ∧ tries.all.length ≤ 5 ∧
      ∀ turn ∈ tries.earlier, turn.Refused ∧ ¬ turn.Judged := by
  intro station login byKey keyless byPassword trusting met asked
  have unresolved (l : Ssh.Login) : ¬ l.Chosen station keyless := fun chosen => by
    cases Ssh.Login.ofTarget_eq_ok_iff.mpr chosen
  have untrusted : WinRm.checkCertificate station trusting ≠ .ok () := fun trusted => by
    cases trusted
  have readable : station.readText "/keys/deploy" = .ok "the key" := rfl
  have chosen : login.Chosen station byKey :=
    ⟨_, .keyFile "/keys/deploy", rfl, .keyFile rfl rfl, rfl, .keyFile readable rfl⟩
  refine ⟨⟨?_, ?_⟩, ?_, ?_⟩
  · exact (connect_attempts.1 {} station keyless _).1 (.inr unresolved)
  · exact (connect_attempts.2 {} station trusting _).1 (.inr (.inr untrusted))
  · obtain ⟨tries, sent, answer, events, log, some, few, refused, logins⟩ :=
      (connect_attempts.1 {} station byKey .lateRejection).2 login rfl chosen
    subst log
    exact ⟨tries, answer, events, some, few, refused, events ▸ logins⟩
  · obtain ⟨tries, sent, answer, events, log, some, few, refused⟩ :=
      (connect_attempts.2 {} station byPassword (.unreachable "" (.code 111))).2
        ⟨"deploy", "s3cret"⟩ rfl rfl rfl
    subst log
    exact ⟨tries, answer, events, some, few, refused⟩

end Hostlink
