import Hostlink.Bytes.Utf16
import Hostlink.Bytes.Utf8
import Hostlink.Digest.Hmac
import Hostlink.Digest.Md4
import Hostlink.Fault
import Hostlink.Text.Quoted
import Hostlink.Text.UpperCase

/-!
# NTLM

The three messages of an NTLM login: the client negotiates, the server sends a challenge, and the
client proves that it knows the password without sending it. A message's variable parts stand
behind a fixed header, which tells the length and the offset of each in a descriptor of eight
octets.
-/

namespace Hostlink.WinRm.Ntlm

/-! ## Identities -/

/-- A login with the domain it belongs to, and the workstation it comes from. -/
structure Identity where
  user : String
  domain : String
  workstation : String
  password : String
  deriving DecidableEq, Repr

/-- What comes before and after the first occurrence of a character. -/
def splitOnce? (mark : Char) (s : String) : Option (String × String) :=
  let before := s.toList.takeWhile (· != mark)
  match s.toList.dropWhile (· != mark) with
  | [] => none
  | _ :: after => some (String.ofList before, String.ofList after)

/-- The domain and the user of a login, which is written `DOMAIN\user`, `user@domain` or `user`. -/
def splitLogin (login : String) : String × String :=
  match splitOnce? '\\' login, splitOnce? '@' login with
  | some (domain, user), _ => (domain, user)
  | none, some (user, domain) => (domain, user)
  | none, none => ("", login)

/-- The identity of a login. -/
def Identity.ofLogin (workstation login password : String) : Identity :=
  let (domain, user) := splitLogin login
  { user, domain, workstation, password }

/-- An identity as it may be shown: everything but the password. -/
def Identity.shown (i : Identity) : String :=
  "NtlmAuthenticator \x7b username: " ++ Text.quoted i.user ++ ", domain: " ++
    Text.quoted i.domain ++ ", workstation: " ++ Text.quoted i.workstation ++ ", .. \x7d"

/-- The digest of a password. -/
def passwordHash (password : String) : Bytes := Digest.md4 (Utf16.encode password)

/-- The key of an identity's proofs: the password's digest over user and domain, the user in upper
case. -/
def Identity.key (i : Identity) : Bytes :=
  Digest.hmacMd5 (passwordHash i.password) (Utf16.encode (Text.upperCase i.user ++ i.domain))

/-! ## Messages -/

/-- The eight octets that every message starts with. -/
def signature : Bytes := [78, 84, 76, 77, 83, 83, 80, 0]

/-- The descriptor of a part: its length twice, cut to 16 bits, and its offset. -/
def descriptor (length offset : Nat) : Bytes :=
  Bytes.littleEndian 2 length ++ Bytes.littleEndian 2 length ++ Bytes.littleEndian 4 offset

/-- What the client offers: Unicode, OEM names, a target, NTLM, signing, and extended security. -/
def negotiateFlags : Nat := 0x00088207

/-- What the client settles on: the same without OEM names and without asking for a target. -/
def authenticateFlags : Nat := 0x00088201

/-- The first message. -/
def Identity.negotiate (i : Identity) : Bytes :=
  let workstation := Utf8.encode i.workstation
  let domain := Utf8.encode i.domain
  signature ++ Bytes.littleEndian 4 1 ++ Bytes.littleEndian 4 negotiateFlags ++
    descriptor domain.length (32 + workstation.length) ++ descriptor workstation.length 32 ++
    workstation ++ domain

/-- What the second message tells. -/
structure Challenge where
  nonce : Bytes
  targetInfo : Bytes
  deriving DecidableEq, Repr

/-- Reads the second message. Target information is optional, and so is the part of the header that
describes it. -/
def Challenge.parse (message : Bytes) : Attempt Challenge :=
  if message.length < 32 ∨ message.take 8 ≠ signature ∨
      (message.drop 8).take 4 ≠ Bytes.littleEndian 4 2 then
    .error (.authentication "Invalid NTLM challenge message")
  else
    let nonce := (message.drop 24).take 8
    if message.length < 48 then .ok ⟨nonce, []⟩
    else
      let length := Bytes.value ((message.drop 40).take 2)
      let offset := Bytes.value ((message.drop 44).take 4)
      match message.slice? offset length with
      | some targetInfo => .ok ⟨nonce, targetInfo⟩
      | none => .error (.authentication "NTLM challenge target info out of bounds")

/-- The client's part of the proof: when it was made, a challenge of its own, and the target
information. -/
def blob (clientChallenge : Bytes) (timestamp : Nat) (targetInfo : Bytes) : Bytes :=
  [1, 1, 0, 0, 0, 0, 0, 0] ++ Bytes.littleEndian 8 timestamp ++ clientChallenge ++ Bytes.zeros 4 ++
    targetInfo ++ Bytes.zeros 4

/-- What is proved: the keyed digest over the server's challenge and `data`, and the data. -/
def proof (key nonce data : Bytes) : Bytes := Digest.hmacMd5 key (nonce ++ data) ++ data

/-- The variable parts of the third message, in the order in which they stand. -/
structure Answer where
  lm : Bytes
  nt : Bytes
  domain : Bytes
  user : Bytes
  workstation : Bytes
  deriving DecidableEq, Repr

/-- The answer of an identity to a challenge. -/
def Identity.answer (i : Identity) (c : Challenge) (clientChallenge : Bytes) (timestamp : Nat) :
    Answer where
  lm := proof i.key c.nonce clientChallenge
  nt := proof i.key c.nonce (blob clientChallenge timestamp c.targetInfo)
  domain := Utf16.encode i.domain
  user := Utf16.encode i.user
  workstation := Utf16.encode i.workstation

/-- The length of the third message's header. -/
def headerLength : Nat := 88

/-- The third message of an answer: the header, and the parts one behind the other. -/
def Answer.message (a : Answer) : Bytes :=
  let ntOffset := headerLength + a.lm.length
  let domainOffset := ntOffset + a.nt.length
  let userOffset := domainOffset + a.domain.length
  let workstationOffset := userOffset + a.user.length
  let keyOffset := workstationOffset + a.workstation.length
  signature ++ Bytes.littleEndian 4 3 ++
    descriptor a.lm.length headerLength ++ descriptor a.nt.length ntOffset ++
    descriptor a.domain.length domainOffset ++ descriptor a.user.length userOffset ++
    descriptor a.workstation.length workstationOffset ++ descriptor 0 keyOffset ++
    Bytes.littleEndian 4 authenticateFlags ++ Bytes.zeros 24 ++
    a.lm ++ a.nt ++ a.domain ++ a.user ++ a.workstation

/-- The third message of an identity to a challenge. -/
def Identity.authenticate (i : Identity) (c : Challenge) (clientChallenge : Bytes)
    (timestamp : Nat) : Bytes :=
  (i.answer c clientChallenge timestamp).message

/-! ## Reading the third message back -/

/-- The length and the offset that the descriptor at a place tells. -/
def describedAt (message : Bytes) (place : Nat) : Nat × Nat :=
  (Bytes.value ((message.drop place).take 2), Bytes.value ((message.drop (place + 4)).take 4))

/-- The part that the descriptor at a place describes, if it lies within the message. -/
def partAt? (message : Bytes) (place : Nat) : Option Bytes :=
  let (length, offset) := describedAt message place
  message.slice? offset length

/-- What a server reads off the third message about who sent it. -/
structure Claim where
  domain : String
  user : String
  ntLength : Nat
  flags : Bytes
  deriving DecidableEq, Repr

/-- Reads who sent a third message. -/
def Claim.ofMessage? (message : Bytes) : Option Claim := do
  let domain ← partAt? message 28
  let user ← partAt? message 36
  let domain ← (Utf16.decode domain).toOption
  let user ← (Utf16.decode user).toOption
  return { domain, user, ntLength := (describedAt message 20).1, flags := (message.drop 60).take 4 }

end Hostlink.WinRm.Ntlm
