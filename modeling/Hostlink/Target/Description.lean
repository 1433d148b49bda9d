import Hostlink.Fault
import Hostlink.Target
import Hostlink.Value.Decode

/-!
# Descriptions of targets

The written form of a target and its parts as structured values. Reading takes a record by the
names of its fields or a list by their positions; fields that are left out take their defaults.
-/

namespace Hostlink

open Value

namespace Transport

/-- The names that a transport is read by. -/
def variants : List (String × Transport) := all.map fun t => (t.tag, t)

/-- Reads a transport. -/
def decode : Reader Transport := readVariant variants

end Transport

namespace Credentials

/-- The written form of a login. -/
def encode (c : Credentials) : Value :=
  .record [
    ("username", .text c.username),
    ("password", .optional .text c.password),
    ("private_key_path", .optional .text c.keyPath),
    ("private_key", .optional .text c.key)]

/-- The fields of a login. -/
def layout : Layout := ⟨"Credentials", ["username", "password", "private_key_path", "private_key"]⟩

/-- Reads a text that may be absent. -/
def decodeText : Reader (Option String) := readOptional (readText "a string")

/-- Reads a path that may be absent. -/
def decodePath : Reader (Option String) := readOptional (readText "path string")

/-- Reads one field of a login. -/
def check (d : Dialect) (name : String) (v : Value) : Except Value.Fault Unit :=
  match name with
  | "username" => discard (readText "a string" d v)
  | "password" | "private_key" => discard (decodeText d v)
  | "private_key_path" => discard (decodePath d v)
  | _ => .ok ()

/-- Reads a login. -/
def decode : Reader Credentials := fun d v => do
  let fs ← layout.view check d v
  let username ← fs.read "username" (readText "a string") none
  let password ← fs.read "password" decodeText (some none)
  let keyPath ← fs.read "private_key_path" decodePath (some none)
  let key ← fs.read "private_key" decodeText (some none)
  layout.refuseSurplus d v
  return { username, password, keyPath, key }

end Credentials

namespace WinRmSettings

/-- The written form of the settings. -/
def encode (w : WinRmSettings) : Value :=
  .record [
    ("certificate_path", .optional .text w.certificatePath),
    ("trust_certificate", .bool w.trustCertificate),
    ("https", .bool w.https)]

/-- The fields of the settings. -/
def layout : Layout := ⟨"WinRmData", ["certificate_path", "trust_certificate", "https"]⟩

/-- Reads one field of the settings. -/
def check (d : Dialect) (name : String) (v : Value) : Except Value.Fault Unit :=
  match name with
  | "certificate_path" => discard (Credentials.decodePath d v)
  | "trust_certificate" | "https" => discard (readBool d v)
  | _ => .ok ()

/-- Reads the settings. -/
def decode : Reader WinRmSettings := fun d v => do
  let fs ← layout.view check d v
  let certificatePath ← fs.read "certificate_path" Credentials.decodePath (some none)
  let trustCertificate ← fs.read "trust_certificate" readBool (some false)
  let https ← fs.read "https" readBool (some true)
  layout.refuseSurplus d v
  return { certificatePath, trustCertificate, https }

end WinRmSettings

namespace Target

/-- The written form of a target. -/
def encode (t : Target) : Value :=
  .record [
    ("address", .text t.address),
    ("port", .optional (fun p : UInt16 => .int p.toNat) t.port),
    ("connection_type", .text t.transport.tag),
    ("credentials", .optional Credentials.encode t.credentials),
    ("winrm", t.winRm.encode),
    ("connection_retries", .int t.attempts.toNat),
    ("retry_tick_period", .int t.pause.toNat)]

/-- The fields of a target. -/
def layout : Layout := ⟨"ConnectionDetails", [
  "address", "port", "connection_type", "credentials", "winrm", "connection_retries",
  "retry_tick_period"]⟩

/-- Reads one field of a target. -/
def check (d : Dialect) (name : String) (v : Value) : Except Value.Fault Unit :=
  match name with
  | "address" => discard (readText "a string" d v)
  | "port" => discard (readOptional readUInt16 d v)
  | "connection_type" => discard (Transport.decode d v)
  | "credentials" => discard (readOptional Credentials.decode d v)
  | "winrm" => discard (WinRmSettings.decode d v)
  | "connection_retries" => discard (readUInt32 d v)
  | "retry_tick_period" => discard (readUInt64 d v)
  | _ => .ok ()

/-- Reads a target. -/
def decode : Reader Target := fun d v => do
  let fs ← layout.view check d v
  let address ← fs.read "address" (readText "a string") none
  let port ← fs.read "port" (readOptional readUInt16) (some none)
  let transport ← fs.read "connection_type" Transport.decode none
  let credentials ← fs.read "credentials" (readOptional Credentials.decode) (some none)
  let winRm ← fs.read "winrm" WinRmSettings.decode (some {})
  let attempts ← fs.read "connection_retries" readUInt32 (some 1)
  let pause ← fs.read "retry_tick_period" readUInt64 (some 1)
  layout.refuseSurplus d v
  return { address, port, transport, credentials, winRm, attempts, pause }

end Target

end Hostlink
