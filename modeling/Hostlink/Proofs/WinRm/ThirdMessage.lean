import Hostlink.Proofs.Bytes.Surrogates
import Hostlink.Proofs.Digest.Keyed
import Hostlink.Proofs.WinRm.SecondMessage

/-!
# The third message, as a server reads it

A server finds the parts of the third message by its descriptors alone. `Answer.message` spreads its
parts one behind the other, `spread` says where each of them comes to stand, and
`describedAt_directory` and `slice?_spread` that this is where the descriptors point to and where the
parts are. So what is read is what was put in, `Answer.ofMessage?_message`, as long as the length of
every part fits into the sixteen bits that a descriptor has for it.

A server knows the password and the challenge that it has sent, and takes everything else from the
message. Its key is `Answer.ServerKey`: the keyed digest of RFC 2104 over MD5, under the MD4 digest of
the password's UTF-16 octets, of the user and the domain that the message states. With that key it
finds both proofs right, `authenticate_verifies`. Nothing that the client computes with goes into what
the server computes, but the two digests themselves.
-/

namespace Hostlink.WinRm.Ntlm

/-! ## The parts of the third message -/

/-- Where the descriptors of the third message stand: those of its parts, and that of a session key,
which it does not have. -/
def places : List Nat := [12, 20, 28, 36, 44, 52]

namespace Answer

/-- The parts, and an empty session key. -/
def parts (a : Answer) : List Bytes := [a.lm, a.nt, a.domain, a.user, a.workstation, []]

/-- **The parts fit**: a descriptor can tell the length of each. -/
def Fits (a : Answer) : Prop := ∀ part ∈ a.parts, part.length < 0x10000

/-- The third message is a header with a directory in it, and the parts behind it. -/
theorem message_eq (a : Answer) :
    a.message = (signature ++ Bytes.littleEndian 4 3) ++ (directory headerLength a.parts ++
      (Bytes.littleEndian 4 authenticateFlags ++ Bytes.zeros 24 ++ a.parts.flatten)) := by
  simp only [message, directory, parts, spread, List.flatMap_cons, List.flatMap_nil,
    List.flatten_cons, List.flatten_nil, List.append_nil, List.append_assoc, List.length_nil]

/-- The header of the third message. -/
def header (a : Answer) : Bytes :=
  (signature ++ Bytes.littleEndian 4 3) ++ (directory headerLength a.parts ++
    (Bytes.littleEndian 4 authenticateFlags ++ Bytes.zeros 24))

theorem length_header (a : Answer) : a.header.length = headerLength := by
  simp only [header, directory, parts, spread, List.flatMap_cons, List.flatMap_nil,
    List.length_append, length_descriptor, Bytes.length_littleEndian, List.length_nil]
  rfl

theorem message_eq_header_append (a : Answer) : a.message = a.header ++ a.parts.flatten := by
  rw [message_eq, header]
  simp only [List.append_assoc]

variable {a : Answer}

theorem Fits.near (fits : a.Fits) : headerLength + a.parts.flatten.length < 0x100000000 := by
  simp only [Fits, parts, List.forall_mem_cons] at fits
  obtain ⟨lm, nt, domain, user, workstation, -⟩ := fits
  simp only [headerLength, parts, List.flatten_cons, List.flatten_nil, List.length_append,
    List.length_nil]
  omega

/-- The descriptors of the third message tell where its parts stand. -/
theorem map_describedAt (fits : a.Fits) :
    places.map (describedAt a.message) = spread headerLength a.parts := by
  rw [message_eq]
  exact describedAt_directory fits fits.near (signature ++ Bytes.littleEndian 4 3) _

theorem partAt?_eq (message : Bytes) (place : Nat) : partAt? message place =
    message.slice? (describedAt message place).2 (describedAt message place).1 := rfl

/-- What the descriptors describe are the parts. -/
theorem map_partAt? (fits : a.Fits) : places.map (partAt? a.message) = a.parts.map some := by
  have read := slice?_spread a.parts a.header
  rw [length_header, ← message_eq_header_append, ← map_describedAt fits, List.map_map] at read
  rw [← read]
  exact List.map_congr_left fun place _ => partAt?_eq a.message place

/-- **The parts of a third message**, read by its descriptors alone. -/
def ofMessage? (message : Bytes) : Option Answer := do
  let lm ← partAt? message 12
  let nt ← partAt? message 20
  let domain ← partAt? message 28
  let user ← partAt? message 36
  let workstation ← partAt? message 44
  return { lm, nt, domain, user, workstation }

theorem ofMessage?_message (fits : a.Fits) : ofMessage? a.message = some a := by
  have read := map_partAt? fits
  simp only [places, parts, List.map_cons, List.map_nil, List.cons.injEq, and_true] at read
  obtain ⟨lm, nt, domain, user, workstation, -⟩ := read
  simp only [ofMessage?, lm, nt, domain, user, workstation]
  rfl

/-- **The key that a server makes** of the password and of what it has read: the octets of the password
are digested, and under that digest the octets of the user in upper case and of the domain. -/
inductive ServerKey (a : Answer) (password : String) : Bytes → Prop
  | intro {secret identity : Bytes} {user domain : String}
      (known : Utf16.Spells secret password.toList)
      (reads : Utf16.Spells a.user user.toList) (within : Utf16.Spells a.domain domain.toList)
      (named : Utf16.Spells identity (Text.upperCase user ++ domain).toList) :
      ServerKey a password (Digest.hmac Digest.md5 64 (Digest.md4 secret) identity)

end Answer

/-! ## The proofs in it -/

/-- The challenge that a client answers is the one in the message it was sent. -/
theorem nonce_of_parse {message : Bytes} {c : Challenge} (h : Challenge.parse message = .ok c) :
    c.nonce = (message.drop 24).take 8 :=
  congrArg Challenge.nonce (Challenge.parse_eq_ok_iff.mp h).2

theorem take_proof (key nonce data : Bytes) :
    (proof key nonce data).take 16 = Digest.hmacMd5 key (nonce ++ data) :=
  List.take_left' (Digest.length_hmacMd5 _ _)

theorem drop_proof (key nonce data : Bytes) : (proof key nonce data).drop 16 = data :=
  List.drop_left' (Digest.length_hmacMd5 _ _)

variable {i : Identity} {c : Challenge} {clientChallenge : Bytes}

/-- Of all parts, the length of the first proof is fixed. -/
theorem Identity.answer_fits {timestamp : Nat} (eight : clientChallenge.length = 8)
    (nt : (i.answer c clientChallenge timestamp).nt.length ≤ 65535)
    (domain : (Utf16.encode i.domain).length ≤ 65535)
    (user : (Utf16.encode i.user).length ≤ 65535)
    (workstation : (Utf16.encode i.workstation).length ≤ 65535) :
    (i.answer c clientChallenge timestamp).Fits := by
  have lm : (i.answer c clientChallenge timestamp).lm.length = 24 := by
    show (proof i.key c.nonce clientChallenge).length = 24
    rw [proof, List.length_append, Digest.length_hmacMd5, eight]
  simp only [Answer.Fits, Answer.parts, List.forall_mem_cons, List.length_nil]
  refine ⟨by omega, by omega, ?_, ?_, ?_, by omega, by simp⟩
  · exact Nat.lt_succ_of_le domain
  · exact Nat.lt_succ_of_le user
  · exact Nat.lt_succ_of_le workstation

/-- **A server makes the key that the client has made**, and no other. -/
theorem Identity.serverKey_answer_iff (timestamp : Nat) {key : Bytes} :
    (i.answer c clientChallenge timestamp).ServerKey i.password key ↔ key = i.key := by
  constructor
  · intro made
    obtain ⟨known, reads, within, named⟩ := made
    rw [Identity.key, Digest.hmacMd5_eq, passwordHash, Utf16.spells_text_iff.mp known,
      Utf16.spells_text_iff.mp named, Utf16.eq_of_spells reads, Utf16.eq_of_spells within]
  · intro same
    rw [same, Identity.key, Digest.hmacMd5_eq]
    have spelled (s : String) : Utf16.Spells (Utf16.encode s) s.toList := Utf16.spells_text_iff.mpr rfl
    exact .intro (spelled _) (spelled _) (spelled _) (spelled _)

/-- The digest of a password, as it is known from other programs. -/
example : Digest.md4 (Utf16.encode "password") = [0x88, 0x46, 0xf7, 0xea, 0xee, 0x8f, 0xb1, 0x17, 0xad,
    0x06, 0xbd, 0xd8, 0x30, 0xb7, 0x58, 0x6c] := by
  decide +kernel

/-- **The third message verifies** at a server that knows the password. Its descriptors lead from
the end of the header to the end of the message, one part behind the other, and the sixth describes
nothing. By them the server reads the identity of the login and the name of the workstation. With the
key that it makes of the password and of the user and the domain that it has read, and with the
challenge that it has sent, it finds both proofs right; it makes one, and only one. -/
theorem authenticate_verifies {challenge : Bytes} (accepted : Challenge.parse challenge = .ok c)
    (eight : clientChallenge.length = 8) (workstation login password : String) (timestamp : Nat)
    (nt : ((Identity.ofLogin workstation login password).answer c clientChallenge
      timestamp).nt.length ≤ 65535)
    (domain : (Utf16.encode (splitLogin login).1).length ≤ 65535)
    (user : (Utf16.encode (splitLogin login).2).length ≤ 65535)
    (name : (Utf16.encode workstation).length ≤ 65535) :
    let message :=
      (Identity.ofLogin workstation login password).authenticate c clientChallenge timestamp
    let nonce := (challenge.drop 24).take 8
    Contiguous 88 message.length (places.map (describedAt message)) ∧
      (describedAt message 52).1 = 0 ∧
      ∃ a key, Answer.ofMessage? message = some a ∧
        places.map (partAt? message) = [a.lm, a.nt, a.domain, a.user, a.workstation, []].map some ∧
        Utf16.decode a.domain = .ok (splitLogin login).1 ∧
        Utf16.decode a.user = .ok (splitLogin login).2 ∧
        Utf16.decode a.workstation = .ok workstation ∧
        (∀ made, a.ServerKey password made ↔ made = key) ∧
        a.nt.take 16 = Digest.hmac Digest.md5 64 key (nonce ++ a.nt.drop 16) ∧
        a.lm = Digest.hmac Digest.md5 64 key (nonce ++ clientChallenge) ++ clientChallenge := by
  intro message nonce
  let i := Identity.ofLogin workstation login password
  let a := i.answer c clientChallenge timestamp
  have fits : a.Fits := Identity.answer_fits eight nt domain user name
  have described := Answer.map_describedAt fits
  have sent : c.nonce = nonce := nonce_of_parse accepted
  refine ⟨?_, ?_, a, i.key, Answer.ofMessage?_message fits, Answer.map_partAt? fits,
    Utf16.decode_encode _, Utf16.decode_encode _, Utf16.decode_encode _,
    fun _ => Identity.serverKey_answer_iff timestamp, ?_, ?_⟩
  · show Contiguous headerLength a.message.length (places.map (describedAt a.message))
    rw [described, Answer.message_eq_header_append, List.length_append, Answer.length_header]
    exact contiguous_spread headerLength a.parts
  · have last := congrArg (fun ds => ds[5]?.map Prod.fst) described
    exact Option.some.inj last
  · show (proof i.key c.nonce _).take 16 =
      Digest.hmac Digest.md5 64 i.key (nonce ++ (proof i.key c.nonce _).drop 16)
    rw [take_proof, drop_proof, sent, Digest.hmacMd5_eq]
  · show proof i.key c.nonce clientChallenge = _
    rw [sent, proof, Digest.hmacMd5_eq]

/-- A second message without target information. -/
def sampleChallenge : Bytes :=
  signature ++ Bytes.littleEndian 4 2 ++ Bytes.zeros 12 ++ [1, 2, 3, 4, 5, 6, 7, 8]

theorem authenticate_verifies_sample :
    let nonce := [1, 2, 3, 4, 5, 6, 7, 8]
    let message :=
      (Identity.ofLogin "desk" "CORP\\ada" "s3cret").authenticate ⟨nonce, []⟩ (Bytes.zeros 8) 0
    ∃ a key, Answer.ofMessage? message = some a ∧ Utf16.decode a.domain = .ok "CORP" ∧
      Utf16.decode a.user = .ok "ada" ∧ a.ServerKey "s3cret" key ∧
      a.nt.take 16 = Digest.hmac Digest.md5 64 key (nonce ++ a.nt.drop 16) := by
  have accepted : Challenge.parse sampleChallenge = .ok ⟨[1, 2, 3, 4, 5, 6, 7, 8], []⟩ := rfl
  obtain ⟨-, -, a, key, read, -, domain, user, -, made, right, -⟩ :=
    authenticate_verifies accepted (show (Bytes.zeros 8).length = 8 by rfl) "desk" "CORP\\ada"
      "s3cret" 0 (by decide +kernel) (by decide) (by decide) (by decide)
  have split : splitLogin "CORP\\ada" = ("CORP", "ada") := by decide +kernel
  rw [split] at domain user
  exact ⟨a, key, read, domain, user, (made key).mpr rfl, right⟩

end Hostlink.WinRm.Ntlm
