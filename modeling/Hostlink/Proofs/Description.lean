import Hostlink.Command
import Hostlink.Proofs.Value.Record
import Hostlink.Target.Description

/-!
# Descriptions read back

A target and a command are read back from what `encode` writes of them, and from every other way to
write the same: `Target.Restated` and `Command.Restated` restate each record on its own, the login
and the settings inside a target too. What may be left out of a record is told by the values of its
fields, `Spare`.

Each reader is followed field by field, and each field by the law of its own reader; which way was
taken to write the record is settled once, in `Value.Restated.view`. `descriptions_read_back` has
both types. The values of hints are passed through, so nothing is asked of them.
-/

namespace Hostlink

open Value

/-! ## Logins -/

namespace Credentials

/-- The fields of a login as they are written, in order of declaration. -/
def entries (c : Credentials) : List (String × Value) := [
  ("username", .text c.username),
  ("password", .optional .text c.password),
  ("private_key_path", .optional .text c.keyPath),
  ("private_key", .optional .text c.key)]

/-- Whether a field of a login holds what is read in its absence. -/
def Spare (c : Credentials) (name : String) : Prop :=
  match name with
  | "password" => c.password = none
  | "private_key_path" => c.keyPath = none
  | "private_key" => c.key = none
  | _ => False

/-- **The ways to write a login.** -/
def Restated (c : Credentials) : Value → Prop := Value.Restated layout c.Spare c.entries

theorem check_of_unknown {d : Dialect} {name : String} (unknown : name ∉ layout.fields) (v : Value) :
    check d name v = .ok () := by
  unfold check
  split
  case h_5 => rfl
  all_goals exact absurd (by decide) unknown

theorem decodeText_optional (o : Option String) : decodeText .json (.optional .text o) = .ok o :=
  readOptional_optional o fun _ => ⟨Value.noConfusion, rfl⟩

theorem decodePath_optional (o : Option String) : decodePath .json (.optional .text o) = .ok o :=
  readOptional_optional o fun _ => ⟨Value.noConfusion, rfl⟩

theorem check_entries (c : Credentials) : ∀ e ∈ c.entries, check .json e.1 e.2 = .ok () := by
  simp only [entries, List.forall_mem_cons]
  refine ⟨rfl, ?_, ?_, ?_, List.forall_mem_nil _⟩
  · exact discard_of_ok (decodeText_optional _)
  · exact discard_of_ok (decodePath_optional _)
  · exact discard_of_ok (decodeText_optional _)

/-- **A login is read from every way to write it.** -/
theorem decode_restated {c : Credentials} {v : Value} (h : c.Restated v) : decode .json v = .ok c := by
  obtain ⟨fs, view, shows, whole⟩ := h.view rfl (by decide) c.check_entries fun _ => check_of_unknown
  have username : fs.read "username" (readText "a string") none = .ok c.username :=
    shows.read (.head _) rfl False.elim
  have password : fs.read "password" decodeText (some none) = .ok c.password :=
    shows.read (.tail _ (.head _)) (decodeText_optional _) fun spared => congrArg some spared.symm
  have keyPath : fs.read "private_key_path" decodePath (some none) = .ok c.keyPath :=
    shows.read (.tail _ (.tail _ (.head _))) (decodePath_optional _) fun spared =>
      congrArg some spared.symm
  have key : fs.read "private_key" decodeText (some none) = .ok c.key :=
    shows.read (.tail _ (.tail _ (.tail _ (.head _)))) (decodeText_optional _) fun spared =>
      congrArg some spared.symm
  simp only [decode, view, username, password, keyPath, key, whole, bind, Except.bind]
  rfl

end Credentials

/-! ## Settings -/

namespace WinRmSettings

/-- The fields of the settings as they are written, in order of declaration. -/
def entries (w : WinRmSettings) : List (String × Value) := [
  ("certificate_path", .optional .text w.certificatePath),
  ("trust_certificate", .bool w.trustCertificate),
  ("https", .bool w.https)]

/-- Whether a field of the settings holds what is read in its absence: no certificate, no trust in
any, and HTTPS. -/
def Spare (w : WinRmSettings) (name : String) : Prop :=
  match name with
  | "certificate_path" => w.certificatePath = none
  | "trust_certificate" => w.trustCertificate = false
  | "https" => w.https = true
  | _ => False

/-- **The ways to write the settings.** -/
def Restated (w : WinRmSettings) : Value → Prop := Value.Restated layout w.Spare w.entries

theorem check_of_unknown {d : Dialect} {name : String} (unknown : name ∉ layout.fields) (v : Value) :
    check d name v = .ok () := by
  unfold check
  split
  case h_4 => rfl
  all_goals exact absurd (by decide) unknown

theorem check_entries (w : WinRmSettings) : ∀ e ∈ w.entries, check .json e.1 e.2 = .ok () := by
  simp only [entries, List.forall_mem_cons]
  exact ⟨discard_of_ok (Credentials.decodePath_optional _), rfl, rfl, List.forall_mem_nil _⟩

/-- **The settings are read from every way to write them.** -/
theorem decode_restated {w : WinRmSettings} {v : Value} (h : w.Restated v) :
    decode .json v = .ok w := by
  obtain ⟨fs, view, shows, whole⟩ := h.view rfl (by decide) w.check_entries fun _ => check_of_unknown
  have path : fs.read "certificate_path" Credentials.decodePath (some none) = .ok w.certificatePath :=
    shows.read (.head _) (Credentials.decodePath_optional _) fun spared => congrArg some spared.symm
  have trust : fs.read "trust_certificate" readBool (some false) = .ok w.trustCertificate :=
    shows.read (.tail _ (.head _)) rfl fun spared => congrArg some spared.symm
  have https : fs.read "https" readBool (some true) = .ok w.https :=
    shows.read (.tail _ (.tail _ (.head _))) rfl fun spared => congrArg some spared.symm
  simp only [decode, view, path, trust, https, whole, bind, Except.bind]
  rfl

end WinRmSettings

/-! ## Targets -/

namespace Transport

theorem decode_tag (t : Transport) : decode .json (.text t.tag) = .ok t := by
  cases t <;> rfl

end Transport

namespace Target

/-- The fields of a target in order of declaration, as they are written with these forms of the login
and the settings. -/
def entries (t : Target) (login settings : Value) : List (String × Value) := [
  ("address", .text t.address),
  ("port", .optional (fun p : UInt16 => .int p.toNat) t.port),
  ("connection_type", .text t.transport.tag),
  ("credentials", login),
  ("winrm", settings),
  ("connection_retries", .int t.attempts.toNat),
  ("retry_tick_period", .int t.pause.toNat)]

/-- Whether a field of a target holds what is read in its absence: no port, no login, the settings
as they are by default, one attempt, a pause of one second. -/
def Spare (t : Target) (name : String) : Prop :=
  match name with
  | "port" => t.port = none
  | "credentials" => t.credentials = none
  | "winrm" => t.winRm = {}
  | "connection_retries" => t.attempts = 1
  | "retry_tick_period" => t.pause = 1
  | _ => False

/-- **The ways to write a target**, with the login and the settings inside it written in ways of their
own. -/
def Restated (t : Target) (v : Value) : Prop :=
  ∃ login settings, RestatedOption Credentials.Restated t.credentials login ∧
    t.winRm.Restated settings ∧ Value.Restated layout t.Spare (t.entries login settings) v

theorem check_of_unknown {d : Dialect} {name : String} (unknown : name ∉ layout.fields) (v : Value) :
    check d name v = .ok () := by
  unfold check
  split
  case h_8 => rfl
  all_goals exact absurd (by decide) unknown

theorem decodePort_optional (o : Option UInt16) :
    readOptional readUInt16 .json (.optional (fun p : UInt16 => .int p.toNat) o) = .ok o :=
  readOptional_optional o fun p => ⟨Value.noConfusion, readUInt16_toNat p⟩

theorem decodeLogin_restated {o : Option Credentials} {login : Value}
    (h : RestatedOption Credentials.Restated o login) :
    readOptional Credentials.decode .json login = .ok o :=
  readOptional_restated h fun _ _ restated =>
    ⟨restated.ne_null, Credentials.decode_restated restated⟩

theorem check_entries {t : Target} {login settings : Value}
    (hlogin : RestatedOption Credentials.Restated t.credentials login)
    (hsettings : t.winRm.Restated settings) :
    ∀ e ∈ t.entries login settings, check .json e.1 e.2 = .ok () := by
  simp only [entries, List.forall_mem_cons]
  refine ⟨rfl, ?_, ?_, ?_, ?_, ?_, ?_, List.forall_mem_nil _⟩
  · exact discard_of_ok (decodePort_optional _)
  · exact discard_of_ok (Transport.decode_tag _)
  · exact discard_of_ok (decodeLogin_restated hlogin)
  · exact discard_of_ok (WinRmSettings.decode_restated hsettings)
  · exact discard_of_ok (readUInt32_toNat _)
  · exact discard_of_ok (readUInt64_toNat _)

/-- **A target is read from every way to write it.** -/
theorem decode_restated {t : Target} {v : Value} (h : t.Restated v) : decode .json v = .ok t := by
  obtain ⟨login, settings, hlogin, hsettings, h⟩ := h
  obtain ⟨fs, view, shows, whole⟩ :=
    h.view rfl (by decide) (check_entries hlogin hsettings) fun _ => check_of_unknown
  have address : fs.read "address" (readText "a string") none = .ok t.address :=
    shows.read (.head _) rfl False.elim
  have port : fs.read "port" (readOptional readUInt16) (some none) = .ok t.port :=
    shows.read (.tail _ (.head _)) (decodePort_optional _) fun spared => congrArg some spared.symm
  have transport : fs.read "connection_type" Transport.decode none = .ok t.transport :=
    shows.read (.tail _ (.tail _ (.head _))) (Transport.decode_tag _) False.elim
  have credentials : fs.read "credentials" (readOptional Credentials.decode) (some none) =
      .ok t.credentials :=
    shows.read (.tail _ (.tail _ (.tail _ (.head _)))) (decodeLogin_restated hlogin) fun spared =>
      congrArg some spared.symm
  have winRm : fs.read "winrm" WinRmSettings.decode (some {}) = .ok t.winRm :=
    shows.read (.tail _ (.tail _ (.tail _ (.tail _ (.head _)))))
      (WinRmSettings.decode_restated hsettings) fun spared => congrArg some spared.symm
  have attempts : fs.read "connection_retries" readUInt32 (some 1) = .ok t.attempts :=
    shows.read (.tail _ (.tail _ (.tail _ (.tail _ (.tail _ (.head _)))))) (readUInt32_toNat _)
      fun spared => congrArg some spared.symm
  have pause : fs.read "retry_tick_period" readUInt64 (some 1) = .ok t.pause :=
    shows.read (.tail _ (.tail _ (.tail _ (.tail _ (.tail _ (.tail _ (.head _)))))))
      (readUInt64_toNat _) fun spared => congrArg some spared.symm
  simp only [decode, view, address, port, transport, credentials, winRm, attempts, pause, whole,
    bind, Except.bind]
  rfl

/-- What is written of a target is one of the ways to write it. -/
theorem restated_encode (t : Target) : t.Restated t.encode := by
  refine ⟨.optional Credentials.encode t.credentials, t.winRm.encode, ?_, Value.Restated.plain,
    Value.Restated.plain⟩
  cases t.credentials with
  | none => rfl
  | some c => exact Value.Restated.plain

end Target

/-! ## Commands -/

namespace Command

/-- The fields of a command as they are written, in order of declaration. -/
def entries (c : Command) : List (String × Value) := [
  ("command", .text c.text), ("expected_rc", .int c.expectedCode.toInt), ("extra", .record c.hints)]

/-- Whether a field of a command holds what is read in its absence: zero to be returned, no hints. -/
def Spare (c : Command) (name : String) : Prop :=
  match name with
  | "expected_rc" => c.expectedCode = 0
  | "extra" => c.hints = []
  | _ => False

/-- **The ways to write a command.** The record of its hints is not restated. -/
def Restated (c : Command) : Value → Prop := Value.Restated layout c.Spare c.entries

theorem checkField_of_unknown {d : Dialect} {name : String} (unknown : name ∉ layout.fields)
    (v : Value) : checkField d name v = .ok () := by
  unfold checkField
  split
  case h_4 => rfl
  all_goals exact absurd (by decide) unknown

theorem checkField_entries (c : Command) : ∀ e ∈ c.entries, checkField .json e.1 e.2 = .ok () := by
  simp only [entries, List.forall_mem_cons]
  exact ⟨rfl, discard_of_ok (readInt32_toInt _), rfl, List.forall_mem_nil _⟩

/-- **A command is read from every way to write it.** -/
theorem decode_restated {c : Command} {v : Value} (h : c.Restated v) : decode .json v = .ok c := by
  obtain ⟨fs, view, shows, whole⟩ :=
    h.view rfl (by decide) c.checkField_entries fun _ => checkField_of_unknown
  have text : fs.read "command" (readText "a string") none = .ok c.text :=
    shows.read (.head _) rfl False.elim
  have code : fs.read "expected_rc" readInt32 (some 0) = .ok c.expectedCode :=
    shows.read (.tail _ (.head _)) (readInt32_toInt _) fun spared => congrArg some spared.symm
  have hints : fs.read "extra" decodeHints (some []) = .ok c.hints :=
    shows.read (.tail _ (.tail _ (.head _))) rfl fun spared => congrArg some spared.symm
  simp only [decode, view, text, code, hints, whole, bind, Except.bind]
  rfl

theorem restated_encode (c : Command) : c.Restated c.encode := Value.Restated.plain

end Command

/-! ## Both -/

/-- **Targets and commands read back**: from what is written of them, and from whatever restates it.
Of each record on its own, the fields may come in another order, among names that are no fields, and
without those that hold what is read in their absence; or the record may be the list of its fields'
values. -/
theorem descriptions_read_back :
    (∀ t : Target, Target.decode .json t.encode = .ok t) ∧
    (∀ c : Command, Command.decode .json c.encode = .ok c) ∧
    (∀ (t : Target) (v : Value), t.Restated v → Target.decode .json v = .ok t) ∧
    (∀ (c : Command) (v : Value), c.Restated v → Command.decode .json v = .ok c) := by
  refine ⟨fun t => ?_, fun c => ?_, fun t v h => ?_, fun c v h => ?_⟩
  · exact Target.decode_restated t.restated_encode
  · exact Command.decode_restated c.restated_encode
  · exact Target.decode_restated h
  · exact Command.decode_restated h

/-- A target with a login, and all else as it is by default. -/
def Target.unadorned : Target where
  address := "win-7"
  transport := .winRm
  credentials := some (.ofPassword "ada" "s3cret")

/-- That target restated: its fields from the last one to the first, most defaults left out and a
stranger added, the login by position, the settings with nothing but a stranger. -/
def Target.jumbled : Value := .record [
  ("labels", .list [.text "rack 4"]),
  ("retry_tick_period", .int 1),
  ("winrm", .record [("proxy", .null)]),
  ("credentials", .list [.text "ada", .text "s3cret", .null, .null]),
  ("connection_type", .text "winrm"),
  ("address", .text "win-7")]

theorem Target.restated_jumbled : unadorned.Restated jumbled := by
  refine ⟨.list [.text "ada", .text "s3cret", .null, .null], .record [("proxy", .null)],
    .byPosition, ?_, ?_⟩
  · refine .byName [] [("proxy", .null)] (List.nil_sublist _) ?_ ?_ (.refl _)
    · simp only [WinRmSettings.entries, List.forall_mem_cons]
      exact ⟨.inr rfl, .inr rfl, .inr rfl, List.forall_mem_nil _⟩
    · simp only [List.forall_mem_cons]
      exact ⟨by decide, List.forall_mem_nil _⟩
  · refine .byName [("address", .text "win-7"), ("connection_type", .text "winrm"),
        ("credentials", .list [.text "ada", .text "s3cret", .null, .null]),
        ("winrm", .record [("proxy", .null)]), ("retry_tick_period", .int 1)]
      [("labels", .list [.text "rack 4"])] ?_ ?_ ?_ (List.reverse_perm _).symm
    · exact .cons_cons _ (.cons _ (.cons_cons _ (.cons_cons _ (.cons_cons _ (.cons _
        (.cons_cons _ .slnil))))))
    · simp only [entries, List.forall_mem_cons]
      refine ⟨.inl (.head _), .inr rfl, .inl ?_, .inl ?_, .inl ?_, .inr rfl, .inl ?_,
        List.forall_mem_nil _⟩
      · exact .tail _ (.head _)
      · exact .tail _ (.tail _ (.head _))
      · exact .tail _ (.tail _ (.tail _ (.head _)))
      · exact .tail _ (.tail _ (.tail _ (.tail _ (.head _))))
    · simp only [List.forall_mem_cons]
      exact ⟨by decide, List.forall_mem_nil _⟩

def Command.hostname : Command := { text := "hostname", hints := [("force_split", .bool true)] }

theorem descriptions_read_back_restated :
    (Target.unadorned.Restated Target.jumbled ∧
      Target.decode .json Target.jumbled = .ok Target.unadorned) ∧
    (Command.hostname.Restated
        (.list [.text "hostname", .int 0, .record [("force_split", .bool true)]]) ∧
      Command.decode .json
        (.list [.text "hostname", .int 0, .record [("force_split", .bool true)]]) =
          .ok Command.hostname) := by
  have command : Command.hostname.Restated
      (.list [.text "hostname", .int 0, .record [("force_split", .bool true)]]) := .byPosition
  exact ⟨⟨Target.restated_jumbled, descriptions_read_back.2.2.1 _ _ Target.restated_jumbled⟩,
    command, descriptions_read_back.2.2.2 _ _ command⟩

end Hostlink
