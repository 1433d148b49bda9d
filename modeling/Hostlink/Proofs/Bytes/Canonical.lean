import Hostlink.Proofs.Bytes.Base64

/-!
# The one text of a byte string

The reader of base64 is strict, so a byte string has one text. `decode_eq_ok_iff` says that what
can be read is the text that is written for what was read; with it, a base64 text is no longer
looked at through its reader.

The proof takes the reader apart in its own order. Blocks of symbols are the symbols of the numbers
read, `eq_of_digits`. The last block may end in padding, and padding stands at the third and fourth
place of a group only, so there are at most two signs of it, `Tail.Reads.pads_le`. Numbers that leave
no bit to spare are the numbers of what they make up, `sextets_of_unpack`, and the length then tells
how much padding there has to be.
-/

namespace Hostlink

/-- A text is told by its octets. -/
theorem Utf8.encode_injective {s t : String} (h : Utf8.encode s = Utf8.encode t) : s = t := by
  have same : s.toList.utf8Encode = t.toList.utf8Encode := by
    simp only [List.utf8Encode]
    exact congrArg List.toByteArray h
  have decoded := congrArg ByteArray.utf8Decode? same
  rw [List.utf8Decode?_utf8Encode, List.utf8Decode?_utf8Encode] at decoded
  exact String.toList_inj.mp (List.toArray_inj (Option.some.inj decoded))

namespace Base64

/-! ## Symbols and padding -/

/-- Only the symbol of a number stands for it. -/
theorem eq_octet_of_digit? {b : UInt8} {n : Nat} (h : digit? b = some n) : b = octet n ∧ n < 64 := by
  have small : n < 64 := by
    simp only [digit?] at h
    grind
  have table : ∀ k < 256, ∀ n ∈ digit? (UInt8.ofNat k), UInt8.ofNat k = octet n := by
    decide +kernel
  refine ⟨?_, small⟩
  rw [← UInt8.ofNat_toNat (x := b)] at h ⊢
  exact table b.toNat b.toNat_lt n h

/-- A block that reads as numbers is the symbols of these numbers. -/
theorem eq_of_digits {offset : Nat} {text : Bytes} {ns : List Nat} (h : digits offset text = .ok ns) :
    text = ns.map octet ∧ ∀ n ∈ ns, n < 64 := by
  induction text generalizing offset ns with
  | nil =>
    cases h
    exact ⟨rfl, List.forall_mem_nil _⟩
  | cons b text ih =>
    unfold digits at h
    rw [List.zipIdx_cons, List.mapM_cons] at h
    cases read : digit? b with
    | none =>
      simp only [read] at h
      cases h
    | some n =>
      simp only [read] at h
      have h : (digits (offset + 1) text >>= fun ms => pure (n :: ms)) = Except.ok ns := h
      cases rest : digits (offset + 1) text with
      | error fault => rw [rest] at h; cases h
      | ok ms =>
        rw [rest] at h
        cases h
        obtain ⟨rfl, small⟩ := eq_octet_of_digit? read
        obtain ⟨rfl, smalls⟩ := ih rest
        exact ⟨rfl, List.forall_mem_cons.mpr ⟨small, smalls⟩⟩

/-! ## The last block -/

/-- **What was read of the last block**: the symbols of the numbers, and padding behind them, none
of which stands at the first or the second place of a group. -/
structure Tail.Reads (t : Tail) (text : Bytes) : Prop where
  text : text = t.digits.reverse.map octet ++ List.replicate t.pads pad
  small : ∀ n ∈ t.digits, n < 64
  padded : t.padded = none ↔ t.pads = 0
  places : ∀ i < t.pads, 2 ≤ (t.digits.length + i) % 4

theorem Tail.Reads.length {t : Tail} {text : Bytes} (h : t.Reads text) :
    text.length = t.digits.length + t.pads := by
  have length := congrArg List.length h.text
  simpa only [List.length_append, List.length_map, List.length_reverse, List.length_replicate]
    using length

theorem Tail.Reads.pads_le {t : Tail} {text : Bytes} (h : t.Reads text) : t.pads ≤ 2 := by
  refine Nat.le_of_not_lt fun many => ?_
  have first := h.places 0 (by omega)
  have second := h.places 1 (by omega)
  have third := h.places 2 (by omega)
  omega

/-- One octet more. The cases are those of the reader. -/
theorem Tail.Reads.push {offset : Nat} {t t' : Tail} {text : Bytes} {b : UInt8} (h : t.Reads text)
    (read : t.push offset b text.length = .ok t') : t'.Reads (text ++ [b]) := by
  have length := h.length
  unfold Tail.push at read
  split at read
  next sign =>
    subst sign
    split at read
    next => cases read
    next place =>
      cases read
      refine ⟨?_, h.small, ?_, ?_⟩
      · simp only [List.replicate_succ', ← List.append_assoc, ← h.text]
      · simp
      · intro i hi
        rcases Nat.lt_succ_iff_lt_or_eq.mp hi with before | rfl
        · exact h.places i before
        · show 2 ≤ (t.digits.length + t.pads) % 4
          omega
  next symbol =>
    split at read
    next => cases read
    next unpadded =>
      have none : t.pads = 0 := h.padded.mp unpadded
      cases known : digit? b with
      | none => simp only [known] at read; cases read
      | some n =>
        simp only [known] at read
        cases read
        obtain ⟨rfl, small⟩ := eq_octet_of_digit? known
        refine ⟨?_, List.forall_mem_cons.mpr ⟨small, h.small⟩, ?_, ?_⟩
        · have text := h.text
          simp only [none, List.replicate_zero, List.append_nil] at text ⊢
          rw [text, List.reverse_cons, List.map_append]
          rfl
        · exact iff_of_true unpadded none
        · intro i hi
          have : i < 0 := none ▸ hi
          omega

/-- A last block that is read is what was read of it. -/
theorem reads_of_tail {offset : Nat} {text : Bytes} {t : Tail} (h : tail offset text = .ok t) :
    t.Reads text := by
  -- the induction carries what was read before, which stands in front of the text
  have all : ∀ (rest before : Bytes) (s : Tail), s.Reads before →
      (rest.zipIdx before.length).foldlM (fun t p => t.push offset p.1 p.2) s = .ok t →
      t.Reads (before ++ rest) := by
    intro rest
    induction rest with
    | nil =>
      intro before s h read
      cases read
      rwa [List.append_nil]
    | cons b rest ih =>
      intro before s h read
      rw [List.zipIdx_cons, List.foldlM_cons] at read
      cases pushed : s.push offset b before.length with
      | error fault => simp only [pushed] at read; cases read
      | ok s' =>
        simp only [pushed] at read
        have next := ih (before ++ [b]) s' (h.push pushed)
        rw [List.append_assoc, List.length_append] at next
        exact next read
  exact all text [] {} ⟨rfl, List.forall_mem_nil _, by simp, by simp⟩ h

/-! ## The numbers of what was read -/

/-- **Numbers that leave no bit to spare** are the numbers of what they make up. The cases are those
of `unpack`; one number on its own makes up nothing. -/
theorem sextets_of_unpack {acc out : Bytes} {ns : List Nat} (h : unpack acc ns = (out, 0))
    (small : ∀ n ∈ ns, n < 64) (whole : ns.length % 4 ≠ 1) :
    ∃ bs, out = acc.reverse ++ bs ∧ sextets bs = ns := by
  fun_induction unpack acc ns with
  | case1 acc a b c d rest n ih =>
    simp only [List.forall_mem_cons] at small
    obtain ⟨ha, hb, hc, hd, small⟩ := small
    simp only [List.length_cons] at whole
    obtain ⟨bs, rfl, rfl⟩ := ih h small (by omega)
    refine ⟨UInt8.ofNat (n / 65536) :: UInt8.ofNat (n / 256) :: UInt8.ofNat n :: bs, ?_, ?_⟩
    · simp only [List.reverse_cons, List.append_assoc, List.cons_append, List.nil_append]
    · simp only [sextets, UInt8.toNat_ofNat', List.cons.injEq, and_true]
      omega
  | case2 acc a b c n =>
    simp only [List.forall_mem_cons] at small
    obtain ⟨ha, hb, hc, -⟩ := small
    simp only [Prod.mk.injEq] at h
    obtain ⟨rfl, spare⟩ := h
    refine ⟨[UInt8.ofNat (n / 1024), UInt8.ofNat (n / 4)], ?_, ?_⟩
    · simp only [List.reverse_cons, List.append_assoc, List.cons_append, List.nil_append]
    · simp only [sextets, UInt8.toNat_ofNat', List.cons.injEq, and_true]
      omega
  | case3 acc a b n =>
    simp only [List.forall_mem_cons] at small
    obtain ⟨ha, hb, -⟩ := small
    simp only [Prod.mk.injEq] at h
    obtain ⟨rfl, spare⟩ := h
    refine ⟨[UInt8.ofNat (n / 16)], ?_, ?_⟩
    · simp only [List.reverse_cons]
    · simp only [sextets, UInt8.toNat_ofNat', List.cons.injEq, and_true]
      omega
  | case4 ns acc four three two =>
    have none : ns = [] := by
      cases ns with
      | nil => rfl
      | cons a ns =>
        cases ns with
        | nil => exact absurd rfl whole
        | cons b ns =>
          cases ns with
          | nil => exact absurd rfl (two a b)
          | cons c ns =>
            cases ns with
            | nil => exact absurd rfl (three a b c)
            | cons d ns => exact absurd rfl (four a b c d ns)
    subst none
    cases h
    exact ⟨[], (List.append_nil _).symm, rfl⟩

/-- Where the reader cuts a text: at the last multiple of eight in front of its end. -/
def cutOf (text : Bytes) : Nat := (text.length - 1) / 8 * 8

/-- What a text that is read has passed. -/
theorem passed_of_decode {text bytes : Bytes} (h : decode text = .ok bytes) :
    ∃ ns t, digits 0 (text.take (cutOf text)) = .ok ns ∧
      tail (cutOf text) (text.drop (cutOf text)) = .ok t ∧
      (t.digits.length + t.pads) % 4 = 0 ∧ unpack [] (ns ++ t.digits.reverse) = (bytes, 0) := by
  unfold decode at h
  dsimp only at h
  split at h
  next => split at h <;> cases h
  next =>
    cases head : digits 0 (text.take (cutOf text)) with
    | error fault =>
      rw [cutOf] at head
      rw [head] at h
      cases h
    | ok ns =>
      cases last : tail (cutOf text) (text.drop (cutOf text)) with
      | error fault =>
        rw [cutOf] at head last
        rw [head, last] at h
        cases h
      | ok t =>
        refine ⟨ns, t, rfl, rfl, ?_⟩
        rw [cutOf] at head last
        rw [head, last] at h
        simp only [bind, Except.bind] at h
        split at h
        next => cases h
        next whole =>
          split at h
          next => cases h
          next none =>
            refine ⟨Nat.eq_zero_of_not_pos fun more => whole (Nat.ne_of_gt more), ?_⟩
            cases h
            exact Prod.ext rfl (Nat.eq_zero_of_not_pos fun more => none (Nat.ne_of_gt more))

/-- **Whoever reads a byte string has its text before them.** Symbols in front of the cut, and symbols
and padding behind it, are those of the text. -/
theorem eq_of_decode {text bytes : Bytes} (h : decode text = .ok bytes) :
    text = (sextets bytes).map octet ++ List.replicate (padding bytes) pad := by
  obtain ⟨ns, t, head, last, whole, unpacked⟩ := passed_of_decode h
  obtain ⟨front, small⟩ := eq_of_digits head
  have reads := reads_of_tail last
  have length : ns.length = cutOf text := by
    have taken := congrArg List.length front
    rw [List.length_take, List.length_map] at taken
    unfold cutOf at taken ⊢
    omega
  have smalls : ∀ n ∈ ns ++ t.digits.reverse, n < 64 := by
    intro n hn
    rcases List.mem_append.mp hn with hn | hn
    · exact small n hn
    · exact reads.small n (List.mem_reverse.mp hn)
  have groups : (ns ++ t.digits.reverse).length + t.pads = cutOf text + (t.digits.length + t.pads) := by
    rw [List.length_append, List.length_reverse, length, Nat.add_assoc]
  have few := reads.pads_le
  obtain ⟨_, rfl, numbers⟩ := sextets_of_unpack unpacked smalls (by unfold cutOf at groups; omega)
  have pads : padding bytes = t.pads := by
    have filled := length_sextets bytes
    rw [numbers] at filled
    unfold cutOf at groups
    unfold padding at filled ⊢
    omega
  calc text = text.take (cutOf text) ++ text.drop (cutOf text) := (List.take_append_drop _ _).symm
    _ = ns.map octet ++ (t.digits.reverse.map octet ++ List.replicate t.pads pad) := by
      rw [front, ← reads.text]
    _ = (sextets bytes).map octet ++ List.replicate (padding bytes) pad := by
      rw [numbers, pads, List.map_append, List.append_assoc]

/-- **Strictness**: a text reads as a byte string exactly if it is the text of that byte string. -/
theorem decode_eq_ok_iff {text : List Char} {bytes : Bytes} :
    decode (Utf8.encode (String.ofList text)) = .ok bytes ↔ text = encode bytes := by
  constructor
  · intro h
    have same := (eq_of_decode h).trans (eq_of_decode (decode_encode bytes)).symm
    simpa only [String.toList_ofList] using congrArg String.toList (Utf8.encode_injective same)
  · rintro rfl
    exact decode_encode bytes

end Base64

end Hostlink
