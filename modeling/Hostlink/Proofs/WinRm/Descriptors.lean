import Hostlink.WinRm.Ntlm

/-!
# Descriptors

The parts of a message stand one behind the other, `spread` says where each of them comes to stand,
and `slice?_spread` that it is found there. A descriptor states the length of a part twice, in sixteen
bits, and its offset in thirty-two. The messages are written without a look at how long their parts
are, so what is stated is what remains when the numbers are cut, `fieldsAt_directory`. It is true
exactly if nothing is cut off, `Fields.cut_eq_iff`.
-/

namespace Hostlink.WinRm.Ntlm

/-! ## Parts one behind the other -/

/-- The lengths and the offsets of parts that stand one behind the other, from an offset on. -/
def spread (offset : Nat) : List Bytes → List (Nat × Nat)
  | [] => []
  | part :: parts => (part.length, offset) :: spread (offset + part.length) parts

/-- The descriptors of those parts. -/
def directory (offset : Nat) (parts : List Bytes) : Bytes :=
  (spread offset parts).flatMap fun d => descriptor d.1 d.2

/-- **One part behind the other**, without a gap and without sharing an octet, from one offset to
another; each is given by its length and its offset. -/
def Contiguous (start stop : Nat) : List (Nat × Nat) → Prop
  | [] => start = stop
  | (length, offset) :: more => offset = start ∧ Contiguous (start + length) stop more

theorem contiguous_spread (offset : Nat) (parts : List Bytes) :
    Contiguous offset (offset + parts.flatten.length) (spread offset parts) := by
  induction parts generalizing offset with
  | nil => rfl
  | cons part parts ih =>
    refine ⟨rfl, ?_⟩
    rw [List.flatten_cons, List.length_append, ← Nat.add_assoc]
    exact ih _

theorem length_descriptor (length offset : Nat) : (descriptor length offset).length = 8 := by
  simp only [descriptor, List.length_append, Bytes.length_littleEndian]

/-- **The parts stand where they are said to stand.** -/
theorem slice?_spread (parts : List Bytes) (front : Bytes) :
    (spread front.length parts).map (fun d => (front ++ parts.flatten).slice? d.2 d.1) =
      parts.map some := by
  induction parts generalizing front with
  | nil => rfl
  | cons part parts ih =>
    rw [spread, List.map_cons, List.map_cons, List.flatten_cons, Bytes.slice?_append,
      ← List.append_assoc, ← List.length_append]
    exact congrArg _ (ih (front ++ part))

/-! ## The numbers of a descriptor -/

/-- The numbers of a descriptor: a length, the same once more, and an offset. -/
structure Fields where
  length : Nat
  copy : Nat
  offset : Nat
  deriving DecidableEq, Repr

/-- The numbers at a place of a message. -/
def fieldsAt (message : Bytes) (place : Nat) : Fields where
  length := Bytes.value ((message.drop place).take 2)
  copy := Bytes.value ((message.drop (place + 2)).take 2)
  offset := Bytes.value ((message.drop (place + 4)).take 4)

namespace Fields

/-- The numbers of a part, which is given by its length and its offset. -/
def ofPart (d : Nat × Nat) : Fields := ⟨d.1, d.1, d.2⟩

/-- What remains of numbers in the bits that there are for them. -/
def cut (f : Fields) : Fields := ⟨f.length % 0x10000, f.copy % 0x10000, f.offset % 0x100000000⟩

theorem cut_ofPart_eq_iff {d : Nat × Nat} :
    (ofPart d).cut = ofPart d ↔ d.1 < 0x10000 ∧ d.2 < 0x100000000 := by
  simp only [cut, ofPart, mk.injEq]
  constructor
  · rintro ⟨length, -, offset⟩
    omega
  · rintro ⟨length, offset⟩
    exact ⟨Nat.mod_eq_of_lt length, Nat.mod_eq_of_lt length, Nat.mod_eq_of_lt offset⟩

/-- Numbers stay as they are exactly if all of them fit. -/
theorem cut_eq_iff {layout : List (Nat × Nat)} :
    layout.map (fun d => (ofPart d).cut) = layout.map ofPart ↔
      ∀ d ∈ layout, d.1 < 0x10000 ∧ d.2 < 0x100000000 := by
  rw [List.map_inj_left]
  exact forall₂_congr fun d _ => cut_ofPart_eq_iff

end Fields

/-- **A descriptor holds what remains of its part's numbers.** -/
theorem fieldsAt_append (front rest : Bytes) (length offset : Nat) :
    fieldsAt (front ++ (descriptor length offset ++ rest)) front.length =
      (Fields.ofPart (length, offset)).cut := by
  have once (n : Nat) : (Bytes.littleEndian 2 n).length = 2 := Bytes.length_littleEndian 2 n
  have twice (n : Nat) : (Bytes.littleEndian 2 n ++ Bytes.littleEndian 2 n).length = 4 := by
    simp only [List.length_append, Bytes.length_littleEndian]
  have first : ((front ++ (descriptor length offset ++ rest)).drop front.length).take 2 =
      Bytes.littleEndian 2 length := by
    rw [List.drop_left, descriptor, List.append_assoc, List.append_assoc]
    exact List.take_left' (once length)
  have second : ((front ++ (descriptor length offset ++ rest)).drop (front.length + 2)).take 2 =
      Bytes.littleEndian 2 length := by
    rw [← List.drop_drop, List.drop_left, descriptor, List.append_assoc, List.append_assoc,
      List.drop_left' (once length)]
    exact List.take_left' (once length)
  have last : ((front ++ (descriptor length offset ++ rest)).drop (front.length + 4)).take 4 =
      Bytes.littleEndian 4 offset := by
    rw [← List.drop_drop, List.drop_left, descriptor, List.append_assoc,
      List.drop_left' (twice length)]
    exact List.take_left' (Bytes.length_littleEndian 4 offset)
  rw [fieldsAt, first, second, last, Bytes.value_littleEndian, Bytes.value_littleEndian]
  rfl

/-- **A directory holds what remains of its parts' numbers.** By induction on the parts; the
descriptors that are read already join the front. -/
theorem fieldsAt_directory (offset : Nat) (parts : List Bytes) (front rest : Bytes) :
    (List.range parts.length).map (fun k =>
      fieldsAt (front ++ (directory offset parts ++ rest)) (front.length + 8 * k)) =
        (spread offset parts).map fun d => (Fields.ofPart d).cut := by
  induction parts generalizing offset front with
  | nil => rfl
  | cons part parts ih =>
    let first := descriptor part.length offset
    have whole : front ++ (directory offset (part :: parts) ++ rest) =
        (front ++ first) ++ (directory (offset + part.length) parts ++ rest) := by
      simp only [directory, spread, List.flatMap_cons, List.append_assoc, first]
    have behind (k : Nat) : front.length + 8 * (k + 1) = (front ++ first).length + 8 * k := by
      rw [List.length_append, length_descriptor]
      omega
    have head := fieldsAt_append front (directory (offset + part.length) parts ++ rest) part.length
      offset
    have tail := ih (offset + part.length) (front ++ first)
    rw [List.length_cons, List.range_succ_eq_map, List.map_cons, List.map_map, spread, List.map_cons,
      whole]
    congr 1
    · rw [List.append_assoc]
      exact head
    · rw [← tail]
      exact List.map_congr_left fun k _ => congrArg (fieldsAt _) (behind k)

theorem map_fst_spread (offset : Nat) (parts : List Bytes) :
    (spread offset parts).map Prod.fst = parts.map List.length := by
  induction parts generalizing offset with
  | nil => rfl
  | cons part parts ih => rw [spread, List.map_cons, List.map_cons, ih]

/-- Where parts come to stand depends on their lengths alone. -/
theorem spread_congr {parts parts' : List Bytes}
    (lengths : parts.map List.length = parts'.map List.length) (offset : Nat) :
    spread offset parts = spread offset parts' := by
  induction parts generalizing parts' offset with
  | nil =>
    cases parts' with
    | nil => rfl
    | cons part' parts' => cases lengths
  | cons part parts ih =>
    cases parts' with
    | nil => cases lengths
    | cons part' parts' =>
      obtain ⟨first, more⟩ := List.cons.inj lengths
      rw [spread, spread, first, ih more]

/-- No part starts behind the end of all parts. -/
theorem offset_le_of_mem_spread {offset : Nat} {parts : List Bytes} {d : Nat × Nat}
    (h : d ∈ spread offset parts) : d.2 ≤ offset + parts.flatten.length := by
  induction parts generalizing offset with
  | nil => exact absurd h List.not_mem_nil
  | cons part parts ih =>
    rw [List.flatten_cons, List.length_append, ← Nat.add_assoc]
    rcases List.mem_cons.mp h with rfl | h
    · show offset ≤ offset + part.length + parts.flatten.length
      omega
    · exact ih h

/-- Numbers of parts that stand near stay as they are exactly if each part is short. -/
theorem cut_spread_eq_iff {offset : Nat} {parts : List Bytes}
    (near : (∀ part ∈ parts, part.length < 0x10000) →
      offset + parts.flatten.length < 0x100000000) :
    (spread offset parts).map (fun d => (Fields.ofPart d).cut) =
        (spread offset parts).map Fields.ofPart ↔
      ∀ part ∈ parts, part.length < 0x10000 := by
  rw [Fields.cut_eq_iff]
  constructor
  · intro small part among
    have listed : part.length ∈ (spread offset parts).map Prod.fst := by
      rw [map_fst_spread]
      exact List.mem_map_of_mem among
    obtain ⟨d, stands, length⟩ := List.mem_map.mp listed
    exact length ▸ (small d stands).1
  · intro short d stands
    have listed : d.1 ∈ parts.map List.length := by
      rw [← map_fst_spread offset]
      exact List.mem_map_of_mem stands
    obtain ⟨part, among, length⟩ := List.mem_map.mp listed
    refine ⟨length ▸ short part among, ?_⟩
    exact Nat.lt_of_le_of_lt (offset_le_of_mem_spread stands) (near short)

/-- **A directory of short parts tells where they stand.** -/
theorem describedAt_directory {parts : List Bytes} (small : ∀ part ∈ parts, part.length < 0x10000)
    {offset : Nat} (near : offset + parts.flatten.length < 0x100000000) (front rest : Bytes) :
    (List.range parts.length).map (fun k =>
      describedAt (front ++ (directory offset parts ++ rest)) (front.length + 8 * k)) =
        spread offset parts := by
  have read := fieldsAt_directory offset parts front rest
  rw [(cut_spread_eq_iff fun _ => near).mpr small] at read
  have told := congrArg (List.map fun f : Fields => (f.length, f.offset)) read
  rw [List.map_map, List.map_map] at told
  exact told.trans (List.map_id' _)

/-! ## Messages with parts -/

/-- **Parts in a message**: each stands behind the one before it, from `start` on, and the descriptors
at `places` hold what remains of their numbers. -/
structure Laid (message : Bytes) (places : List Nat) (start : Nat) (parts : List Bytes) : Prop where
  stand : (spread start parts).map (fun d => message.slice? d.2 d.1) = parts.map some
  held : places.map (fieldsAt message) =
    (spread start parts).map fun d => (Fields.ofPart d).cut

/-- **A message is true** where the numbers of its descriptors are those of its parts. -/
def Tells (message : Bytes) (places : List Nat) (start : Nat) (parts : List Bytes) : Prop :=
  places.map (fieldsAt message) = (spread start parts).map Fields.ofPart

theorem Laid.tells_iff {message : Bytes} {places : List Nat} {start : Nat} {parts : List Bytes}
    (laid : Laid message places start parts)
    (near : (∀ part ∈ parts, part.length < 0x10000) → start + parts.flatten.length < 0x100000000) :
    Tells message places start parts ↔ ∀ part ∈ parts, part.length < 0x10000 := by
  rw [Tells, laid.held]
  exact cut_spread_eq_iff near

end Hostlink.WinRm.Ntlm
