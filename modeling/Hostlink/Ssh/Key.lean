import Hostlink.Bytes.Base64
import Hostlink.Digest.Sha256

/-!
# Keys

What a login needs of a private key is known by the public half, and so is the key itself to a server.
In which forms a private key can be written is not said here: a link is given what reads it.
-/

namespace Hostlink.Ssh

/-- A key that a login can be proved by, known by its public half. -/
structure Key where
  /-- The public half as it is sent: the name of its kind, and the numbers of that kind. -/
  publicKey : Bytes
  deriving DecidableEq, Repr

/-- The fingerprint of a key: the digest of its public half, in base64 without padding. -/
def Key.fingerprint (k : Key) : String :=
  String.ofList ((Base64.encode (Digest.sha256 k.publicKey)).filter (· != '='))

end Hostlink.Ssh
