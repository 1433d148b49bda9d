import Hostlink.Text.Blank
import Hostlink.Text.Quoted
import Hostlink.Transport

/-!
# Targets

Everything needed to reach one machine: address, transport, login, the settings of WinRM's
transport security, and the budget of connect attempts. Values of a login that are empty count as
absent.
-/

namespace Hostlink

/-- A login for a target. -/
structure Credentials where
  username : String
  password : Option String
  /-- The path of a private key. -/
  keyPath : Option String
  /-- A private key, as its text. -/
  key : Option String
  deriving DecidableEq, Repr, Inhabited

/-- The one way in which an SSH login is attempted. -/
inductive SshMethod where
  | password (password : String)
  | keyFile (path : String)
  | inlineKey (key : String)
  deriving DecidableEq, Repr

namespace Credentials

/-- A login without anything to prove it. -/
def bare (username : String) : Credentials := ⟨username, none, none, none⟩

/-- A login by password. -/
def ofPassword (username password : String) : Credentials :=
  { bare username with password := some password }

/-- A login by the private key in a file. -/
def ofKeyFile (username path : String) : Credentials := { bare username with keyPath := some path }

/-- A login by a private key. -/
def ofInlineKey (username key : String) : Credentials := { bare username with key := some key }

/-- The password, unless it is empty. -/
def passwordValue (c : Credentials) : Option String := c.password.filter (!·.isEmpty)

/-- The method of an SSH login: password before key file before inline key. -/
def sshMethod (c : Credentials) : Option SshMethod :=
  match c.passwordValue, c.keyPath.filter (!·.isEmpty) with
  | some password, _ => some (.password password)
  | none, some path => some (.keyFile path)
  | none, none => (c.key.filter fun k => !(Text.trim k).isEmpty).map .inlineKey

/-- How something that may be absent is shown. -/
def shownOption (shown : String → String) : Option String → String
  | none => "None"
  | some s => s!"Some({shown s})"

/-- What stands for a secret where a login is shown. -/
def redacted : String → String := fun _ => Text.quoted "<redacted>"

/-- A login as it may be shown: nothing of a password or a key but whether it is there. -/
def shown (c : Credentials) : String :=
  "Credentials \x7b username: " ++ Text.quoted c.username ++
    ", password: " ++ shownOption redacted c.password ++
    ", private_key_path: " ++ shownOption Text.quoted c.keyPath ++
    ", private_key: " ++ shownOption redacted c.key ++ " \x7d"

end Credentials

/-- The settings of WinRM's transport security. -/
structure WinRmSettings where
  /-- The path of a certificate to trust besides the known ones. -/
  certificatePath : Option String := none
  /-- Whether any certificate of the target is trusted. -/
  trustCertificate : Bool := false
  /-- Whether to speak HTTPS rather than HTTP. -/
  https : Bool := true
  deriving DecidableEq, Repr, Inhabited

/-- The settings as they may be shown. -/
def WinRmSettings.shown (w : WinRmSettings) : String :=
  "WinRmData \x7b certificate_path: " ++ Credentials.shownOption Text.quoted w.certificatePath ++
    ", trust_certificate: " ++ toString w.trustCertificate ++
    ", https: " ++ toString w.https ++ " \x7d"

/-- The description of one machine and of how to reach it. -/
structure Target where
  /-- A host name or an IP address. -/
  address : String
  /-- The port, where it is not the transport's own. -/
  port : Option UInt16 := none
  transport : Transport
  credentials : Option Credentials := none
  winRm : WinRmSettings := {}
  /-- How often to try to connect; zero counts as once. -/
  attempts : UInt32 := 1
  /-- The pause between two attempts, in seconds. -/
  pause : UInt64 := 1
  deriving DecidableEq, Repr

namespace Target

/-- The port of WinRM without transport security. -/
def plainWinRmPort : Nat := 5985

/-- How long a dial may take, in seconds. -/
def dialTimeout : Nat := 10

/-- The port to dial. -/
def effectivePort (t : Target) : Nat :=
  match t.port, t.transport with
  | some port, _ => port.toNat
  | none, .winRm => if t.winRm.https then Transport.winRm.defaultPort else plainWinRmPort
  | none, .ssh => Transport.ssh.defaultPort

/-- The address and the port, as they are dialled and shown. -/
def socketAddress (t : Target) : String := s!"{t.address}:{t.effectivePort}"

/-- The address that WinRM requests are posted to. -/
def endpoint (t : Target) : String :=
  let scheme := if t.winRm.https then "https" else "http"
  s!"{scheme}://{t.address}:{t.effectivePort}/wsman"

/-- How many connect attempts there are, at least one. -/
def retryAttempts (t : Target) : Nat := max t.attempts.toNat 1

/-- A target as it may be shown. -/
def shown (t : Target) : String :=
  "ConnectionDetails \x7b address: " ++ Text.quoted t.address ++
    ", port: " ++ Credentials.shownOption id (t.port.map toString) ++
    ", connection_type: " ++ t.transport.shown ++
    ", credentials: " ++ Credentials.shownOption id (t.credentials.map Credentials.shown) ++
    ", winrm: " ++ t.winRm.shown ++
    ", connection_retries: " ++ toString t.attempts ++
    ", retry_tick_period: " ++ toString t.pause ++ " \x7d"

end Target

end Hostlink
