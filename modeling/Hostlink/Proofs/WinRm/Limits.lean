import Hostlink.Proofs.WinRm.ThirdMessage

/-!
# How much the messages can tell

What can be too long for its descriptor is the proof of the third message, which has the server's
target information in it, and the names. `descriptors_true_iff` has the exact limit for each. A server
may send up to 65535 octets of target information, but from 65488 on the proof does not fit, and with
65488 the message says that it is empty.
-/

namespace Hostlink.WinRm.Ntlm

/-! ## The third message -/

theorem Answer.laid (a : Answer) : Laid a.message places headerLength a.parts := by
  constructor
  · have stand := slice?_spread a.parts a.header
    rwa [length_header, ← message_eq_header_append] at stand
  · rw [message_eq]
    exact fieldsAt_directory headerLength a.parts (signature ++ Bytes.littleEndian 4 3) _

/-- **The third message is true exactly if its parts fit.** -/
theorem Answer.tells_iff {a : Answer} : Tells a.message places headerLength a.parts ↔ a.Fits :=
  a.laid.tells_iff Fits.near

theorem length_blob {clientChallenge : Bytes} (eight : clientChallenge.length = 8) (timestamp : Nat)
    (info : Bytes) : (blob clientChallenge timestamp info).length = 32 + info.length := by
  simp only [blob, List.length_append, Bytes.length_littleEndian, eight, Bytes.zeros,
    List.length_replicate, List.length_cons, List.length_nil]
  omega

theorem length_proof (key nonce data : Bytes) :
    (proof key nonce data).length = 16 + data.length := by
  rw [proof, List.length_append, Digest.length_hmacMd5]

variable {i : Identity} {c : Challenge} {clientChallenge : Bytes}

theorem Identity.fits_iff {timestamp : Nat} (eight : clientChallenge.length = 8) :
    (i.answer c clientChallenge timestamp).Fits ↔
      c.targetInfo.length ≤ 65487 ∧ (Utf16.encode i.domain).length ≤ 65535 ∧
        (Utf16.encode i.user).length ≤ 65535 ∧ (Utf16.encode i.workstation).length ≤ 65535 := by
  simp only [Answer.Fits, Answer.parts, List.forall_mem_cons, List.length_nil, answer, length_proof,
    length_blob eight, eight, List.not_mem_nil, false_implies, implies_true, and_true]
  omega

/-! ## The second message -/

/-- Target information is as long as the second message says, or there is none. -/
theorem length_targetInfo_of_parse {message : Bytes} (h : Challenge.parse message = .ok c) :
    c.targetInfo.length = if message.length < 48 then 0 else (fieldsAt message 40).length := by
  obtain ⟨⟨-, holds⟩, rfl⟩ := Challenge.parse_eq_ok_iff.mp h
  by_cases short : message.length < 48
  · rw [Challenge.told, if_pos short, if_pos short, List.length_nil]
  · have inside := holds.resolve_left short
    rw [Challenge.told, if_neg short, if_neg short, List.length_take, List.length_drop]
    omega

/-- A second message with target information. -/
def second (nonce info : Bytes) : Bytes :=
  signature ++ Bytes.littleEndian 4 2 ++ Bytes.zeros 12 ++ nonce ++ Bytes.zeros 8 ++
    descriptor info.length 48 ++ info

/-- **What a server writes is read**, if the length of the target information can be told. -/
theorem parse_second {nonce info : Bytes} (eight : nonce.length = 8) (short : info.length < 0x10000) :
    Challenge.parse (second nonce info) = .ok ⟨nonce, info⟩ := by
  let message : SecondMessage :=
    { target := Bytes.zeros 12, nonce, reserved := Bytes.zeros 8,
      copy := Bytes.littleEndian 2 info.length, gap := [], info, rest := [], length_target := rfl,
      length_nonce := eight, length_reserved := rfl, length_copy := Bytes.length_littleEndian 2 _,
      short := Nat.le_of_lt_succ short, near := by decide }
  have whole : second nonce info = message.octets := by
    simp only [second, descriptor, SecondMessage.octets, SecondMessage.fields, message,
      List.flatten_cons, List.flatten_nil, List.append_nil, List.append_assoc, List.length_nil,
      Nat.add_zero, List.nil_append]
  rw [whole, message.parse_octets]

/-! ## The first message -/

/-- The parts of the first message. -/
def Identity.names (i : Identity) : List Bytes := [Utf8.encode i.workstation, Utf8.encode i.domain]

/-- Where the descriptors of the first message stand. -/
def namePlaces : List Nat := [24, 16]

theorem Identity.laid_negotiate (i : Identity) : Laid i.negotiate namePlaces 32 i.names := by
  let front := signature ++ Bytes.littleEndian 4 1 ++ Bytes.littleEndian 4 negotiateFlags
  let workstation := Utf8.encode i.workstation
  let domain := Utf8.encode i.domain
  have whole : i.negotiate = front ++ (descriptor domain.length (32 + workstation.length) ++
      (descriptor workstation.length 32 ++ (workstation ++ domain))) := by
    simp only [negotiate, front, workstation, domain, List.append_assoc]
  have behind : i.negotiate = (front ++ descriptor domain.length (32 + workstation.length)) ++
      (descriptor workstation.length 32 ++ (workstation ++ domain)) :=
    whole.trans (List.append_assoc _ _ _).symm
  constructor
  · have header : (front ++ descriptor domain.length (32 + workstation.length) ++
        descriptor workstation.length 32).length = 32 := by
      simp only [List.length_append, length_descriptor]
      rfl
    have stand := slice?_spread i.names (front ++
      descriptor domain.length (32 + workstation.length) ++ descriptor workstation.length 32)
    rw [header] at stand
    rw [← stand, behind]
    simp only [names, List.flatten_cons, List.flatten_nil, List.append_nil, List.append_assoc,
      workstation, domain]
  · have outer := fieldsAt_append front
      (descriptor workstation.length 32 ++ (workstation ++ domain)) domain.length
      (32 + workstation.length)
    have inner := fieldsAt_append (front ++ descriptor domain.length (32 + workstation.length))
      (workstation ++ domain) workstation.length 32
    rw [← whole] at outer
    rw [← behind, List.length_append, length_descriptor] at inner
    show [fieldsAt i.negotiate (front.length + 8), fieldsAt i.negotiate front.length] = _
    rw [outer, inner]
    rfl

theorem Identity.tells_negotiate_iff {i : Identity} :
    Tells i.negotiate namePlaces 32 i.names ↔
      (Utf8.encode i.workstation).length ≤ 65535 ∧ (Utf8.encode i.domain).length ≤ 65535 := by
  have short : (∀ part ∈ i.names, part.length < 0x10000) ↔
      (Utf8.encode i.workstation).length ≤ 65535 ∧ (Utf8.encode i.domain).length ≤ 65535 := by
    simp only [names, List.forall_mem_cons, List.not_mem_nil, false_implies, implies_true, and_true]
    omega
  rw [i.laid_negotiate.tells_iff, short]
  intro both
  obtain ⟨workstation, domain⟩ := short.mp both
  simp only [names, List.flatten_cons, List.flatten_nil, List.length_append, List.length_nil]
  omega

/-! ## Both messages -/

/-- **The exact limits of the messages.** Whatever the login, the workstation and a challenge that is
accepted, the parts of both messages stand where they should, and the descriptors hold what remains of
their lengths and offsets. The third message is true exactly if the target information has at most
65487 octets and each of its names has at most 65535. The first is true exactly if its names have. -/
theorem descriptors_true_iff {challenge : Bytes} (accepted : Challenge.parse challenge = .ok c)
    (eight : clientChallenge.length = 8) (workstation login password : String) (timestamp : Nat) :
    let i := Identity.ofLogin workstation login password
    let a := i.answer c clientChallenge timestamp
    let third := i.authenticate c clientChallenge timestamp
    let info := if challenge.length < 48 then 0 else (fieldsAt challenge 40).length
    (Laid third places 88 a.parts ∧
      (Tells third places 88 a.parts ↔
        info ≤ 65487 ∧ (Utf16.encode (splitLogin login).1).length ≤ 65535 ∧
          (Utf16.encode (splitLogin login).2).length ≤ 65535 ∧
          (Utf16.encode workstation).length ≤ 65535)) ∧
      Laid i.negotiate namePlaces 32 [Utf8.encode workstation, Utf8.encode (splitLogin login).1] ∧
        (Tells i.negotiate namePlaces 32 [Utf8.encode workstation, Utf8.encode (splitLogin login).1] ↔
          (Utf8.encode workstation).length ≤ 65535 ∧
            (Utf8.encode (splitLogin login).1).length ≤ 65535) := by
  intro i a third info
  have told : c.targetInfo.length = info := length_targetInfo_of_parse accepted
  refine ⟨⟨a.laid, ?_⟩, i.laid_negotiate, i.tells_negotiate_iff⟩
  rw [← told]
  exact Answer.tells_iff.trans (Identity.fits_iff eight)

theorem descriptors_true_iff_sample :
    let i := Identity.ofLogin "desk" "CORP\\ada" "s3cret"
    let a := i.answer ⟨[1, 2, 3, 4, 5, 6, 7, 8], []⟩ (Bytes.zeros 8) 0
    Tells a.message places 88 a.parts ∧
      Tells i.negotiate namePlaces 32 [Utf8.encode "desk", Utf8.encode "CORP"] := by
  have accepted : Challenge.parse sampleChallenge = .ok ⟨[1, 2, 3, 4, 5, 6, 7, 8], []⟩ := rfl
  have split : splitLogin "CORP\\ada" = ("CORP", "ada") := by decide +kernel
  obtain ⟨⟨-, third⟩, -, first⟩ := descriptors_true_iff accepted
    (show (Bytes.zeros 8).length = 8 by rfl) "desk" "CORP\\ada" "s3cret" 0
  rw [split] at third first
  exact ⟨third.mpr (by decide +kernel), first.mpr (by decide +kernel)⟩

/-- A server that sends 65488 octets is told that the proof is empty. -/
theorem proof_told_empty :
    let c : Challenge := ⟨[1, 2, 3, 4, 5, 6, 7, 8], Bytes.zeros 65488⟩
    let i := Identity.ofLogin "desk" "ada" "s3cret"
    let a := i.answer c (Bytes.zeros 8) 0
    let message := i.authenticate c (Bytes.zeros 8) 0
    Challenge.parse (second c.nonce c.targetInfo) = .ok c ∧
      a.nt.length = 65536 ∧ fieldsAt message 20 = ⟨0, 0, 112⟩ ∧
      ¬ Tells message places 88 a.parts := by
  intro c i a message
  have eight : (Bytes.zeros 8).length = 8 := rfl
  have info : c.targetInfo.length = 65488 := List.length_replicate
  have lm : a.lm.length = 24 := length_proof _ _ _
  have nt : a.nt.length = 65536 := by
    show (proof _ _ (blob _ _ c.targetInfo)).length = 65536
    rw [length_proof, length_blob eight, info]
  refine ⟨parse_second rfl (by rw [info]; decide), nt, ?_, ?_⟩
  · have held := congrArg (fun fields => fields[1]?) a.laid.held
    have second : fieldsAt message 20 =
        (Fields.ofPart (a.nt.length, headerLength + a.lm.length)).cut := Option.some.inj held
    rw [second, nt, lm]
    rfl
  · intro tells
    have fits := Answer.tells_iff.mp tells
    have short := ((Identity.fits_iff eight).mp fits).1
    omega

end Hostlink.WinRm.Ntlm
