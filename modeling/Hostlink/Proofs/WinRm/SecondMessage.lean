import Hostlink.Proofs.Bytes.Checked
import Hostlink.Proofs.WinRm.Descriptors

/-!
# Which second messages are accepted

A second message comes from outside, and any octets may come. `IsSecond` says which of them are
accepted, and `Challenge.told` what is taken from those; all others are refused as a failed login,
`Challenge.parse_eq`. What is read by offsets in this is read within the message,
`Challenge.parse?_eq`: each length that is asked for comes before the octets that it answers for, and
the end of the target information, which the message states, is a sum of numbers with 32 and 16 bits.

A server need not put the target information right behind the header, and has more to say in the
header than is read here. `SecondMessage` is a message of any such layout, and of each the challenge
and the target information are read as they were written.
-/

namespace Hostlink.WinRm.Ntlm

/-! ## What is accepted -/

/-- **A message that starts as a second message does**: with the fixed part of the header, in which
are the signature and the number of the message. -/
def HasHeader (message : Bytes) : Prop :=
  32 ≤ message.length ∧ signature <+: message ∧ (message.drop 8).take 4 = [2, 0, 0, 0]

/-- **A message with its target information in it**, or without the part of the header that
describes it. -/
def HoldsInfo (message : Bytes) : Prop :=
  message.length < 48 ∨
    (fieldsAt message 40).offset + (fieldsAt message 40).length ≤ message.length

instance (message : Bytes) : Decidable (HasHeader message) := inferInstanceAs (Decidable (_ ∧ _ ∧ _))

instance (message : Bytes) : Decidable (HoldsInfo message) := inferInstanceAs (Decidable (_ ∨ _))

/-- **A message that is accepted as a second message.** -/
def IsSecond (message : Bytes) : Prop := HasHeader message ∧ HoldsInfo message

instance (message : Bytes) : Decidable (IsSecond message) := inferInstanceAs (Decidable (_ ∧ _))

namespace Challenge

/-- What a second message tells. -/
def told (message : Bytes) : Challenge where
  nonce := (message.drop 24).take 8
  targetInfo :=
    if message.length < 48 then []
    else (message.drop (fieldsAt message 40).offset).take (fieldsAt message 40).length

/-- Why a message is refused. -/
def refusal (message : Bytes) : String :=
  if HasHeader message then "NTLM challenge target info out of bounds"
  else "Invalid NTLM challenge message"

theorem not_hasHeader_iff {message : Bytes} :
    ¬ HasHeader message ↔ message.length < 32 ∨ message.take 8 ≠ signature ∨
      (message.drop 8).take 4 ≠ Bytes.littleEndian 4 2 := by
  have prefixed : signature <+: message ↔ message.take 8 = signature :=
    List.prefix_iff_eq_take.trans eq_comm
  simp only [HasHeader, prefixed, Decidable.not_and_iff_or_not, Nat.not_le]
  rfl

/-- **A message is accepted or refused**, and nothing else becomes of it. -/
theorem parse_eq (message : Bytes) :
    parse message = if IsSecond message then .ok (told message)
      else .error (.authentication (refusal message)) := by
  by_cases opens : HasHeader message
  · rw [parse, if_neg fun other => not_hasHeader_iff.mpr other opens, refusal, if_pos opens]
    let offset := Bytes.value ((message.drop 44).take 4)
    let length := Bytes.value ((message.drop 40).take 2)
    by_cases short : message.length < 48
    · rw [if_pos short, if_pos ⟨opens, .inl short⟩, told, if_pos short]
    · have reaches : HoldsInfo message ↔ offset + length ≤ message.length := or_iff_right short
      rw [if_neg short]
      dsimp only
      by_cases inside : offset + length ≤ message.length
      · rw [Bytes.slice?_of_le inside, if_pos ⟨opens, reaches.mpr inside⟩, told, if_neg short]
        rfl
      · rw [Bytes.slice?, if_neg inside, if_neg fun second => inside (reaches.mp second.2)]
  · rw [parse, if_pos (not_hasHeader_iff.mp opens), if_neg fun second => opens second.1, refusal,
      if_neg opens]

theorem parse_eq_ok_iff {message : Bytes} {c : Challenge} :
    parse message = .ok c ↔ IsSecond message ∧ c = told message := by
  rw [parse_eq]
  split
  next second => simp only [Except.ok.injEq, second, true_and, eq_comm]
  next other => simp only [reduceCtorEq, other, false_and]

theorem parse_eq_error_iff {message : Bytes} {fault : LinkFault} :
    parse message = .error fault ↔
      ¬ IsSecond message ∧ fault = .authentication (refusal message) := by
  rw [parse_eq]
  split
  next second => simp only [reduceCtorEq, second, not_true_eq_false, false_and]
  next other => simp only [Except.error.injEq, other, not_false_eq_true, true_and, eq_comm]

/-! ## Reading by offsets -/

/-- Reads the second message by offsets, in words of that many bits. The target information is the one
range that may lie outside of the message; elsewhere there is no answer where one does. -/
def parse? (bits : Nat) (message : Bytes) : Option (Attempt Challenge) := do
  let invalid : Attempt Challenge := .error (.authentication "Invalid NTLM challenge message")
  if message.length < 32 then return invalid
  if (← message.between? 0 8) ≠ signature then return invalid
  if (← message.between? 8 12) ≠ Bytes.littleEndian 4 2 then return invalid
  let nonce ← message.between? 24 32
  if message.length < 48 then return .ok ⟨nonce, []⟩
  let length := Bytes.value (← message.between? 40 42)
  let offset := Bytes.value (← message.between? 44 48)
  let stop ← sum? bits offset length
  match message.between? offset stop with
  | some targetInfo => return .ok ⟨nonce, targetInfo⟩
  | none => return .error (.authentication "NTLM challenge target info out of bounds")

/-- A word can hold where the target information ends, by far. -/
theorem described_lt (message : Bytes) :
    Bytes.value ((message.drop 44).take 4) + Bytes.value ((message.drop 40).take 2) <
      Nat.pow 2 64 := by
  have offset : Bytes.value ((message.drop 44).take 4) < Nat.pow 256 4 :=
    Bytes.value_lt (List.length_take_le 4 _)
  have length : Bytes.value ((message.drop 40).take 2) < Nat.pow 256 2 :=
    Bytes.value_lt (List.length_take_le 2 _)
  have : Nat.pow 256 4 + Nat.pow 256 2 ≤ Nat.pow 2 64 := by decide
  omega

/-- **Every message is read within its bounds**, in words of 64 bits, and comes to what `parse` says. -/
theorem parse?_eq (message : Bytes) : parse? 64 message = some (parse message) := by
  by_cases few : message.length < 32
  · rw [parse?, parse, if_pos few, if_pos (.inl few)]
    rfl
  have read (start length : Nat) (within : start + length ≤ message.length) :
      message.between? start (start + length) = some ((message.drop start).take length) := by
    rw [Bytes.between?_add, Bytes.slice?_of_le within]
  have signed : message.between? 0 8 = some (message.take 8) := read 0 8 (by omega)
  have kind : message.between? 8 12 = some ((message.drop 8).take 4) := read 8 4 (by omega)
  have nonce : message.between? 24 32 = some ((message.drop 24).take 8) := read 24 8 (by omega)
  simp only [parse?, parse, few, signed, kind, nonce, false_or, if_false, Option.bind_eq_bind,
    Option.bind_some, Option.pure_def]
  by_cases start : message.take 8 ≠ signature
  · rw [if_pos start, if_pos (.inl start)]
  by_cases number : (message.drop 8).take 4 ≠ Bytes.littleEndian 4 2
  · rw [if_neg start, if_pos number, if_pos (.inr number)]
  have opens : ¬ (message.take 8 ≠ signature ∨ (message.drop 8).take 4 ≠ Bytes.littleEndian 4 2) :=
    not_or.mpr ⟨start, number⟩
  rw [if_neg start, if_neg number, if_neg opens]
  by_cases short : message.length < 48
  · rw [if_pos short, if_pos short]
  have length : message.between? 40 42 = some ((message.drop 40).take 2) := read 40 2 (by omega)
  have offset : message.between? 44 48 = some ((message.drop 44).take 4) := read 44 4 (by omega)
  have room := sum?_of_lt (described_lt message)
  rw [if_neg short, if_neg short, length, offset, Option.bind_some, Option.bind_some, room,
    Option.bind_some, Bytes.between?_add]
  cases message.slice? _ _ with
  | none => rfl
  | some info => rfl

end Challenge

/-! ## What a server may write -/

/-- **A second message as it may be written**: between the fields that are read, and behind the target
information, stand any octets, and the target information stands as far behind the header as its offset
can tell. -/
structure SecondMessage where
  /-- The descriptor of the target's name, and the flags. -/
  target : Bytes
  nonce : Bytes
  reserved : Bytes
  /-- What stands where the length of the target information is told once more. -/
  copy : Bytes
  /-- What stands before the target information. -/
  gap : Bytes
  info : Bytes
  /-- What stands behind it. -/
  rest : Bytes
  length_target : target.length = 12
  length_nonce : nonce.length = 8
  length_reserved : reserved.length = 8
  length_copy : copy.length = 2
  short : info.length ≤ 65535
  near : 48 + gap.length < Nat.pow 256 4

namespace SecondMessage

/-- The fields of a message in the order in which they stand. -/
def fields (s : SecondMessage) : List Bytes :=
  [signature, Bytes.littleEndian 4 2, s.target, s.nonce, s.reserved,
    Bytes.littleEndian 2 s.info.length, s.copy, Bytes.littleEndian 4 (48 + s.gap.length), s.gap,
    s.info, s.rest]

/-- The octets of a message. -/
def octets (s : SecondMessage) : Bytes := s.fields.flatten

variable (s : SecondMessage)

/-- The lengths and the offsets of the fields. -/
theorem spread_fields :
    spread 0 s.fields = [(8, 0), (4, 8), (12, 12), (8, 24), (8, 32), (2, 40), (2, 42), (4, 44),
      (s.gap.length, 48), (s.info.length, 48 + s.gap.length),
      (s.rest.length, 48 + s.gap.length + s.info.length)] := by
  simp only [fields, spread, Bytes.length_littleEndian, s.length_target, s.length_nonce,
    s.length_reserved, s.length_copy]
  rfl

/-- **Each field stands where it is looked for.** -/
theorem stand : (spread 0 s.fields).map (fun d => s.octets.slice? d.2 d.1) = s.fields.map some :=
  slice?_spread s.fields []

/-- **A message is read as it was written.** -/
theorem parse_octets : Challenge.parse s.octets = .ok ⟨s.nonce, s.info⟩ := by
  have stand := s.stand
  rw [spread_fields] at stand
  simp only [fields, List.map_cons, List.map_nil, List.cons.injEq, Bytes.slice?_eq_some_iff,
    Nat.zero_add, List.drop_zero] at stand
  obtain ⟨⟨-, signed⟩, ⟨-, kind⟩, -, ⟨-, nonce⟩, -, ⟨-, length⟩, -, ⟨whole, offset⟩, -,
    ⟨inside, info⟩, -⟩ := stand
  have reach : (fieldsAt s.octets 40).length = s.info.length := by
    rw [fieldsAt, length, Bytes.value_littleEndian]
    exact Nat.mod_eq_of_lt (Nat.lt_succ_of_le s.short)
  have place : (fieldsAt s.octets 40).offset = 48 + s.gap.length := by
    rw [fieldsAt, offset, Bytes.value_littleEndian]
    exact Nat.mod_eq_of_lt s.near
  have long : ¬ s.octets.length < 48 := by omega
  refine Challenge.parse_eq_ok_iff.mpr ⟨⟨⟨by omega, ?_, kind⟩, .inr ?_⟩, ?_⟩
  · exact signed ▸ List.take_prefix 8 s.octets
  · rwa [reach, place]
  · rw [Challenge.told, if_neg long, reach, place, info, nonce]

end SecondMessage

/-- **Exactly the second messages are accepted**, and every other octets, however many, are a failed
login. All of this is read within the message and within words of 64 bits. And what a server writes
into a message is what is taken from it, wherever it puts the target information, and whatever stands
in the rest. -/
theorem Challenge.parse_accepts :
    (∀ message c, parse message = .ok c ↔ IsSecond message ∧ c = told message) ∧
    (∀ message fault, parse message = .error fault ↔
      ¬ IsSecond message ∧ fault = .authentication (refusal message)) ∧
    (∀ message, parse? 64 message = some (parse message)) ∧
    ∀ s : SecondMessage, parse s.octets = .ok ⟨s.nonce, s.info⟩ :=
  ⟨fun _ _ => parse_eq_ok_iff, fun _ _ => parse_eq_error_iff, parse?_eq, SecondMessage.parse_octets⟩

end Hostlink.WinRm.Ntlm
