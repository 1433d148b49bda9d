import Hostlink.Bytes.Base64
import Hostlink.Bytes.Utf8
import Hostlink.Pieces

/-!
# Base64 read back

A byte string is the numbers below 64 that its bits make, `sextets`, and the padding that fills the
last group. Both directions are stated over these numbers: `encode_eq` says that writing maps each
to its symbol, and `decode_octets` that reading undoes the map, wherever the reader's blocks are cut.
Together they give the round trip, `decode_encode`.

`encode_append` is why pieces work: whole groups of three octets are written on their own, so the
text of a byte string cut at a multiple of four is the texts of its pieces, `pieces_encode`.
-/

namespace Hostlink.Base64

/-! ## The alphabet -/

/-- The octet of the symbol of a number below 64. -/
def octet (n : Nat) : UInt8 := UInt8.ofNat (symbol n).toNat

/-- A symbol stands for its number. -/
theorem digit?_octet : ∀ n < 64, digit? (octet n) = some n := by decide

theorem octet_ne_pad : ∀ n < 64, octet n ≠ pad := by decide

theorem utf8_symbol : ∀ n < 64, String.utf8EncodeChar (symbol n) = [octet n] := by decide

theorem utf8_symbols (ns : List Nat) (h : ∀ n ∈ ns, n < 64) :
    (ns.map symbol).flatMap String.utf8EncodeChar = ns.map octet := by
  induction ns with
  | nil => rfl
  | cons n ns ih =>
    rw [List.forall_mem_cons] at h
    rw [List.map_cons, List.flatMap_cons, utf8_symbol n h.1, ih h.2]
    rfl

theorem utf8_padding (pads : Nat) :
    (List.replicate pads '=').flatMap String.utf8EncodeChar = List.replicate pads pad := by
  induction pads with
  | zero => rfl
  | succ pads ih =>
    rw [List.replicate_succ, List.flatMap_cons, ih]
    rfl

theorem symbol_ne_quote : ∀ n < 64, symbol n ≠ '\'' := by decide

/-! ## The numbers of a byte string -/

/-- The numbers below 64 that the bits of a byte string make; bits that are missing count as
zero. -/
def sextets : Bytes → List Nat
  | [] => []
  | [a] =>
    let n := a.toNat * 16
    [n / 64, n % 64]
  | [a, b] =>
    let n := (a.toNat * 256 + b.toNat) * 4
    [n / 4096, n / 64 % 64, n % 64]
  | a :: b :: c :: rest =>
    let n := (a.toNat * 256 + b.toNat) * 256 + c.toNat
    n / 262144 :: n / 4096 % 64 :: n / 64 % 64 :: n % 64 :: sextets rest

/-- How many padding signs fill the last group. -/
def padding (bs : Bytes) : Nat := (3 - bs.length % 3) % 3

/-- The text of a byte string is the symbols of its numbers and the padding. -/
theorem encode_eq (bs : Bytes) :
    encode bs = (sextets bs).map symbol ++ List.replicate (padding bs) '=' := by
  fun_induction encode bs with
  | case1 | case2 | case3 => rfl
  | case4 a b c rest n ih =>
    have same : padding (a :: b :: c :: rest) = padding rest := by
      simp only [padding, List.length_cons]
      omega
    rw [same, ih]
    rfl

theorem sextets_lt (bs : Bytes) : ∀ n ∈ sextets bs, n < 64 := by
  fun_induction sextets bs with
  | case1 => exact List.forall_mem_nil _
  | case2 a n =>
    have := a.toNat_lt
    simp only [List.forall_mem_cons]
    exact ⟨by omega, by omega, List.forall_mem_nil _⟩
  | case3 a b n =>
    have := a.toNat_lt
    have := b.toNat_lt
    simp only [List.forall_mem_cons]
    exact ⟨by omega, by omega, by omega, List.forall_mem_nil _⟩
  | case4 a b c rest n ih =>
    have := a.toNat_lt
    have := b.toNat_lt
    have := c.toNat_lt
    simp only [List.forall_mem_cons]
    exact ⟨by omega, by omega, by omega, by omega, ih⟩

/-- Numbers and padding fill whole groups of four. -/
theorem length_sextets (bs : Bytes) :
    (sextets bs).length + padding bs = (bs.length + 2) / 3 * 4 := by
  fun_induction sextets bs with
  | case1 | case2 | case3 => simp only [padding, List.length_cons, List.length_nil]
  | case4 a b c rest n ih =>
    simp only [padding, List.length_cons] at ih ⊢
    omega

theorem ofNat_eq {n : Nat} {b : UInt8} (h : n % 256 = b.toNat) : UInt8.ofNat n = b := by
  apply UInt8.toNat_inj.mp
  rw [UInt8.toNat_ofNat']
  exact h

/-- **The numbers of a byte string make up the byte string**, with no bit to spare. -/
theorem unpack_sextets (acc bs : Bytes) : unpack acc (sextets bs) = (acc.reverse ++ bs, 0) := by
  fun_induction sextets bs generalizing acc with
  | case1 => simp only [unpack, List.append_nil]
  | case2 a n =>
    have hn : n / 64 * 64 + n % 64 = a.toNat * 16 := by omega
    have ha : UInt8.ofNat (a.toNat * 16 / 16) = a := ofNat_eq (by have := a.toNat_lt; omega)
    simp only [unpack, hn, ha, List.reverse_cons, Nat.mul_mod_left]
  | case3 a b n =>
    have hn : (n / 4096 * 64 + n / 64 % 64) * 64 + n % 64 = (a.toNat * 256 + b.toNat) * 4 := by omega
    have ha : UInt8.ofNat ((a.toNat * 256 + b.toNat) * 4 / 1024) = a :=
      ofNat_eq (by have := a.toNat_lt; have := b.toNat_lt; omega)
    have hb : UInt8.ofNat ((a.toNat * 256 + b.toNat) * 4 / 4) = b :=
      ofNat_eq (by have := b.toNat_lt; omega)
    simp only [unpack, hn, ha, hb, List.reverse_cons, List.append_assoc, List.cons_append,
      List.nil_append, Nat.mul_mod_left]
  | case4 a b c rest n ih =>
    have hn : ((n / 262144 * 64 + n / 4096 % 64) * 64 + n / 64 % 64) * 64 + n % 64 =
        (a.toNat * 256 + b.toNat) * 256 + c.toNat := by omega
    have ha : UInt8.ofNat (((a.toNat * 256 + b.toNat) * 256 + c.toNat) / 65536) = a :=
      ofNat_eq (by have := a.toNat_lt; have := b.toNat_lt; have := c.toNat_lt; omega)
    have hb : UInt8.ofNat (((a.toNat * 256 + b.toNat) * 256 + c.toNat) / 256) = b :=
      ofNat_eq (by have := b.toNat_lt; have := c.toNat_lt; omega)
    have hc : UInt8.ofNat ((a.toNat * 256 + b.toNat) * 256 + c.toNat) = c :=
      ofNat_eq (by have := c.toNat_lt; omega)
    simp only [unpack, hn, ha, hb, hc, ih, List.reverse_cons, List.append_assoc, List.cons_append,
      List.nil_append]

/-! ## Reading -/

/-- A block of symbols reads as their numbers. -/
theorem digits_octets (ns : List Nat) (h : ∀ n ∈ ns, n < 64) (offset : Nat) :
    digits offset (ns.map octet) = .ok ns := by
  unfold digits
  induction ns generalizing offset with
  | nil => rfl
  | cons n ns ih =>
    rw [List.forall_mem_cons] at h
    simp only [List.map_cons, List.zipIdx_cons, List.mapM_cons, digit?_octet n h.1, ih h.2]
    rfl

/-- Symbols of the last block are read one by one, as long as no padding stands before them. -/
theorem tail_octets (offset : Nat) (ns : List Nat) (h : ∀ n ∈ ns, n < 64) (index : Nat) (t : Tail)
    (unpadded : t.padded = none) :
    ∃ last, ((ns.map octet).zipIdx index).foldlM (fun t (b, i) => t.push offset b i) t =
      .ok { t with digits := ns.reverse ++ t.digits, last } := by
  induction ns generalizing index t with
  | nil => exact ⟨t.last, rfl⟩
  | cons n ns ih =>
    rw [List.forall_mem_cons] at h
    let t₁ : Tail := { t with digits := n :: t.digits, last := some (octet n, offset + index) }
    have first : t.push offset (octet n) index = .ok t₁ := by
      simp only [Tail.push, octet_ne_pad n h.1, if_false, unpadded, digit?_octet n h.1, t₁]
    obtain ⟨last, rest⟩ := ih h.2 (index + 1) t₁ unpadded
    refine ⟨last, ?_⟩
    rw [List.map_cons, List.zipIdx_cons, List.foldlM_cons]
    show (t.push offset (octet n) index >>= fun t => List.foldlM _ t _) = _
    rw [first]
    refine rest.trans ?_
    simp only [t₁, List.reverse_cons, List.append_assoc, List.cons_append, List.nil_append]

/-- A padding sign is taken at the third and the fourth place of a group. -/
theorem push_pad (offset index : Nat) (t : Tail) (place : 2 ≤ index % 4) :
    t.push offset pad index =
      .ok { t with padded := some (t.padded.getD (offset + index)), pads := t.pads + 1 } := by
  simp only [Tail.push, if_true, Nat.not_lt.mpr place, if_false]

/-- Padding signs are counted, and leave the numbers before them as they are. -/
theorem tail_pads (offset pads index : Nat) (t : Tail)
    (places : ∀ i < pads, 2 ≤ (index + i) % 4) :
    ∃ t', ((List.replicate pads pad).zipIdx index).foldlM (fun t (b, i) => t.push offset b i) t =
      .ok t' ∧ t'.digits = t.digits ∧ t'.pads = t.pads + pads := by
  induction pads generalizing index t with
  | zero => exact ⟨t, rfl, rfl, rfl⟩
  | succ pads ih =>
    obtain ⟨t', rest, digits, count⟩ := ih (index + 1)
      { t with padded := some (t.padded.getD (offset + index)), pads := t.pads + 1 } fun i hi => by
        have := places (i + 1) (by omega)
        omega
    refine ⟨t', ?_, digits, ?_⟩
    · rw [List.replicate_succ, List.zipIdx_cons, List.foldlM_cons]
      show (t.push offset pad index >>= fun t => List.foldlM _ t _) = _
      rw [push_pad offset index t (places 0 (by omega))]
      exact rest
    · rw [count, Nat.add_right_comm]
      rfl

/-- At most two padding signs that fill the last group end the last block. -/
theorem tail_padded (offset : Nat) (ns : List Nat) (h : ∀ n ∈ ns, n < 64) (pads : Nat)
    (few : pads ≤ 2) (whole : (ns.length + pads) % 4 = 0) :
    ∃ t, tail offset (ns.map octet ++ List.replicate pads pad) = .ok t ∧
      t.digits = ns.reverse ∧ t.pads = pads := by
  obtain ⟨last, read⟩ := tail_octets offset ns h 0 {} rfl
  rw [List.append_nil] at read
  obtain ⟨t, padded, digits, count⟩ := tail_pads offset pads ns.length
    { digits := ns.reverse, last } fun i hi => by omega
  refine ⟨t, ?_, digits, by rw [count, Nat.zero_add]⟩
  unfold tail
  rw [List.zipIdx_append, List.foldlM_append, read, List.length_map, Nat.zero_add]
  exact padded

/-- **Reading numbers back**: symbols and padding that fill whole groups are read as the byte string
that the numbers make up. The reader cuts the text at a multiple of eight before the last group, so
the first part is symbols only. -/
theorem decode_octets (ns : List Nat) (h : ∀ n ∈ ns, n < 64) (pads : Nat) (few : pads ≤ 2)
    (whole : (ns.length + pads) % 4 = 0) {bytes : Bytes} (unpacked : unpack [] ns = (bytes, 0)) :
    decode (ns.map octet ++ List.replicate pads pad) = .ok bytes := by
  -- a multiple of eight below a length that is a multiple of four leaves the last group behind it
  let cut := (ns.length + pads - 1) / 8 * 8
  have hcut : cut ≤ ns.length := by omega
  have length : (ns.map octet ++ List.replicate pads pad).length = ns.length + pads := by
    rw [List.length_append, List.length_map, List.length_replicate]
  have head : (ns.map octet ++ List.replicate pads pad).take cut = (ns.take cut).map octet := by
    rw [List.take_append_of_le_length (by rw [List.length_map]; exact hcut), List.map_take]
  have last : (ns.map octet ++ List.replicate pads pad).drop cut =
      (ns.drop cut).map octet ++ List.replicate pads pad := by
    rw [List.drop_append_of_le_length (by rw [List.length_map]; exact hcut), List.map_drop]
  have hhead := digits_octets (ns.take cut) (fun n hn => h n (List.mem_of_mem_take hn)) 0
  obtain ⟨t, hlast, numbers, count⟩ := tail_padded cut (ns.drop cut)
    (fun n hn => h n (List.mem_of_mem_drop hn)) pads few (by rw [List.length_drop]; omega)
  have hwhole : (t.digits.length + t.pads) % 4 = 0 := by
    rw [numbers, count, List.length_reverse, List.length_drop]
    omega
  have hunpack : unpack [] (ns.take cut ++ t.digits.reverse) = (bytes, 0) := by
    rw [numbers, List.reverse_reverse, List.take_append_drop, unpacked]
  unfold decode
  simp only [length]
  rw [if_neg (by omega)]
  show (digits 0 (List.take cut _) >>= fun _ => tail cut (List.drop cut _) >>= _) = _
  rw [head, last, hhead, hlast]
  show (if (t.digits.length + t.pads) % 4 ≠ 0 then _ else _) = _
  rw [if_neg (fun partly => partly hwhole), hunpack]
  rfl

/-- **The round trip**: the text of a byte string reads as that byte string. -/
theorem decode_encode (bs : Bytes) : decode (Utf8.encode (String.ofList (encode bs))) = .ok bs := by
  have text : Utf8.encode (String.ofList (encode bs)) =
      (sextets bs).map octet ++ List.replicate (padding bs) pad := by
    rw [Utf8.encode, String.toList_ofList, encode_eq, List.flatMap_append,
      utf8_symbols _ (sextets_lt bs), utf8_padding]
  rw [text]
  refine decode_octets _ (sextets_lt bs) _ ?_ ?_ (unpack_sextets [] bs)
  · unfold padding
    omega
  · rw [length_sextets]
    omega

/-! ## Pieces -/

theorem length_encode (bs : Bytes) : (encode bs).length = (bs.length + 2) / 3 * 4 := by
  rw [encode_eq, List.length_append, List.length_map, List.length_replicate, length_sextets]

/-- **Whole groups are written on their own.** -/
theorem encode_append (a b : Bytes) (whole : a.length % 3 = 0) :
    encode (a ++ b) = encode a ++ encode b := by
  fun_induction encode a with
  | case1 => rfl
  | case2 | case3 => cases whole
  | case4 x y z rest n ih =>
    have rest_whole : rest.length % 3 = 0 := by
      simp only [List.length_cons] at whole
      omega
    simp only [List.cons_append, encode, ih rest_whole]
    rfl

/-- The first symbols of a text are the text of the first octets. -/
theorem encode_take_drop (groups : Nat) (bs : Bytes) :
    (encode bs).take (4 * groups) = encode (bs.take (3 * groups)) ∧
      (encode bs).drop (4 * groups) = encode (bs.drop (3 * groups)) := by
  rcases Nat.lt_or_ge bs.length (3 * groups) with short | long
  · have length : (encode bs).length ≤ 4 * groups := by
      rw [length_encode]
      omega
    rw [List.take_of_length_le length, List.take_of_length_le (Nat.le_of_lt short),
      List.drop_of_length_le length, List.drop_of_length_le (Nat.le_of_lt short)]
    exact ⟨rfl, rfl⟩
  · have taken : (bs.take (3 * groups)).length = 3 * groups := List.length_take_of_le long
    have length : (encode (bs.take (3 * groups))).length = 4 * groups := by
      rw [length_encode, taken]
      omega
    have parts : encode bs = encode (bs.take (3 * groups)) ++ encode (bs.drop (3 * groups)) := by
      rw [← encode_append _ _ (by rw [taken]; exact Nat.mul_mod_right 3 groups),
        List.take_append_drop]
    rw [parts, ← length, List.take_left, List.drop_left]
    exact ⟨rfl, rfl⟩

/-- **A text cut at whole groups is the texts of the pieces** of what it was made from. -/
theorem pieces_encode (groups : Nat) (some : 0 < groups) (bs : Bytes) :
    pieces (4 * groups) (encode bs) = (pieces (3 * groups) bs).map encode := by
  fun_induction pieces (3 * groups) bs with
  | case1 bs h =>
    rw [List.isEmpty_iff.mp h, encode, pieces]
    rfl
  | case2 bs h ih =>
    have inhabited : (encode bs).isEmpty = false := by
      rw [List.isEmpty_eq_false_iff, ← List.length_pos_iff, length_encode]
      have := List.length_pos_iff.mpr fun none => h (List.isEmpty_iff.mpr none)
      omega
    have size (n : Nat) (hn : 0 < n) : max (n * groups) 1 = n * groups :=
      Nat.max_eq_left (Nat.mul_pos hn some)
    rw [size 3 (by omega)] at ih ⊢
    rw [pieces, inhabited, if_neg Bool.false_ne_true, size 4 (by omega),
      (encode_take_drop groups bs).1, (encode_take_drop groups bs).2, ih, List.map_cons]

/-- What holds of all symbols and of the padding sign holds of every character of a text. -/
theorem forall_mem_encode {p : Char → Prop} (symbols : ∀ n < 64, p (symbol n)) (pad : p '=')
    (bs : Bytes) : ∀ c ∈ encode bs, p c := by
  intro c among
  rw [encode_eq, List.mem_append, List.mem_map] at among
  rcases among with ⟨n, hn, rfl⟩ | padded
  · exact symbols n (sextets_lt bs n hn)
  · exact (List.mem_replicate.mp padded).2 ▸ pad

theorem quote_not_mem_encode (bs : Bytes) : '\'' ∉ encode bs := by
  have other : ∀ c ∈ encode bs, c ≠ '\'' := forall_mem_encode symbol_ne_quote (by decide) bs
  exact fun among => other _ among rfl

end Hostlink.Base64
