import Hostlink.Proofs.Bytes.Base64
import Hostlink.Proofs.Bytes.Utf16

/-!
# What UTF-16 can be read from

As for base64, two rules stand beside the reader. `Spells` says which octets are those of which
characters. `Lone` says what is wrong with units: a half of a pair without its other half, at a place
that can be pointed at.

`spells_iff` ties the first to the writer. `characters_eq_none_iff` says that nothing else than `Lone`
keeps units from being read, and `decode_eq_ok_iff` that octets are read as the one text whose octets
they are.
-/

namespace Hostlink.Utf16

/-! ## Octets that can be read -/

/-- **The octets of characters.** A character below 65536 has two octets, least significant first;
any other has four, two for each surrogate, and ten of its bits in each. -/
inductive Spells : Bytes → List Char → Prop
  | nil : Spells [] []
  | plane {a b : UInt8} {c : Char} {bytes : Bytes} {cs : List Char}
      (unit : a.toNat + 256 * b.toNat = c.toNat) (tail : Spells bytes cs) :
      Spells (a :: b :: bytes) (c :: cs)
  | pair {a b a' b' : UInt8} {u v : Nat} {c : Char} {bytes : Bytes} {cs : List Char}
      (hu : u < 0x400) (hv : v < 0x400) (first : a.toNat + 256 * b.toNat = 0xD800 + u)
      (second : a'.toNat + 256 * b'.toNat = 0xDC00 + v)
      (whole : c.toNat = 0x10000 + u * 0x400 + v) (tail : Spells bytes cs) :
      Spells (a :: b :: a' :: b' :: bytes) (c :: cs)

theorem encode_cons (c : Char) (cs : List Char) :
    encode (String.ofList (c :: cs)) =
      (units c).flatMap (Bytes.littleEndian 2) ++ encode (String.ofList cs) := by
  simp only [encode, String.toList_ofList, List.flatMap_cons]

/-- A unit is told by its octets. -/
theorem littleEndian_eq {a b : UInt8} {n : Nat} (h : a.toNat + 256 * b.toNat = n) :
    Bytes.littleEndian 2 n = [a, b] := by
  have := a.toNat_lt
  have low : UInt8.ofNat n = a := Base64.ofNat_eq (by omega)
  have high : UInt8.ofNat (n / 256) = b := by
    have := b.toNat_lt
    exact Base64.ofNat_eq (by omega)
  rw [← low, ← high]
  rfl

theorem encode_of_spells {bytes : Bytes} {cs : List Char} (h : Spells bytes cs) :
    bytes = encode (String.ofList cs) := by
  induction h with
  | nil => rfl
  | @plane a b c bytes cs unit tail ih =>
    have := a.toNat_lt
    have := b.toNat_lt
    rw [encode_cons, ← ih, units_of_plane (by omega), List.flatMap_singleton, littleEndian_eq unit]
    rfl
  | @pair a b a' b' u v c bytes cs hu hv first second whole tail ih =>
    have high : 0xD800 + (c.toNat - 0x10000) / 0x400 = 0xD800 + u := by omega
    have low : 0xDC00 + (c.toNat - 0x10000) % 0x400 = 0xDC00 + v := by omega
    rw [encode_cons, ← ih, units_of_pair (by omega), high, low, List.flatMap_cons,
      List.flatMap_singleton, littleEndian_eq first, littleEndian_eq second]
    rfl

theorem spells_encode (cs : List Char) : Spells (encode (String.ofList cs)) cs := by
  have octets {n : Nat} (small : n < 0x10000) :
      (UInt8.ofNat n).toNat + 256 * (UInt8.ofNat (n / 256)).toNat = n := by
    rw [UInt8.toNat_ofNat', UInt8.toNat_ofNat']
    omega
  induction cs with
  | nil => exact .nil
  | cons c cs ih =>
    have range := toNat_range c
    rw [encode_cons]
    by_cases plane : c.toNat < 0x10000
    · rw [units_of_plane plane]
      exact .plane (octets plane) ih
    · rw [units_of_pair plane]
      exact .pair (by omega) (by omega) (octets (by omega)) (octets (by omega)) (by omega) ih

/-- **The rule and the writer agree.** -/
theorem spells_iff {bytes : Bytes} {cs : List Char} :
    Spells bytes cs ↔ bytes = encode (String.ofList cs) := by
  constructor
  · intro h
    exact encode_of_spells h
  · rintro rfl
    exact spells_encode cs

theorem spells_text_iff {bytes : Bytes} {s : String} : Spells bytes s.toList ↔ bytes = encode s := by
  rw [spells_iff, String.ofList_toList]

/-- A text is told by its octets. -/
theorem eq_of_spells {s s' : String} (h : Spells (encode s) s'.toList) : s = s' := by
  have read := decode_encode s
  rw [spells_text_iff.mp h, decode_encode, Except.ok.injEq] at read
  exact read.symm

/-- Only the empty text has no octets. -/
theorem encode_eq_nil_iff {s : String} : encode s = [] ↔ s = "" := by
  constructor
  · intro none
    have spelled := spells_encode s.toList
    rw [String.ofList_toList, none] at spelled
    cases chars : s.toList with
    | nil => exact String.toList_eq_nil_iff.mp chars
    | cons c cs =>
      rw [chars] at spelled
      cases spelled
  · rintro rfl
    rfl

theorem two_le_utf8Size {c : Char} (h : 0x10000 ≤ c.toNat) : 2 ≤ c.utf8Size := by
  simp only [Char.utf8Size]
  split
  next small =>
    have : c.toNat ≤ 127 := UInt32.le_iff_toNat_le.mp small
    omega
  next =>
    split
    · exact Nat.le_refl 2
    · split <;> omega

/-- A character has at most two octets for each that it has in UTF-8. -/
theorem length_encode_le (s : String) : (encode s).length ≤ 2 * s.utf8ByteSize := by
  have spelled := spells_encode s.toList
  rw [String.ofList_toList] at spelled
  suffices h : ∀ {bytes : Bytes} {cs : List Char}, Spells bytes cs →
      bytes.length ≤ 2 * (String.ofList cs).utf8ByteSize by
    have := h spelled
    rwa [String.ofList_toList] at this
  intro bytes cs h
  induction h with
  | nil => exact Nat.zero_le _
  | @plane a b c bytes cs unit tail ih =>
    have := c.utf8Size_pos
    rw [String.ofList_cons, String.utf8ByteSize_append, String.utf8ByteSize_singleton]
    simp only [List.length_cons]
    omega
  | @pair a b a' b' u v c bytes cs hu hv first second whole tail ih =>
    have : 2 ≤ c.utf8Size := two_le_utf8Size (by omega)
    rw [String.ofList_cons, String.utf8ByteSize_append, String.utf8ByteSize_singleton]
    simp only [List.length_cons]
    omega

/-! ## Octets that cannot be read -/

/-- The first half of a pair. -/
def IsFirst (u : Nat) : Prop := 0xD800 ≤ u ∧ u < 0xDC00

/-- The second half of a pair. -/
def IsSecond (u : Nat) : Prop := 0xDC00 ≤ u ∧ u < 0xE000

/-- **A half without its other half**: no second one behind a first one, or no first one in front of
a second one. -/
inductive Lone : List Nat → Prop
  | first (front : List Nat) {back : List Nat} {u : Nat} (half : IsFirst u)
      (alone : ∀ v ∈ back.head?, ¬ IsSecond v) : Lone (front ++ u :: back)
  | second (front : List Nat) {back : List Nat} {v : Nat} (half : IsSecond v)
      (alone : ∀ u ∈ front.getLast?, ¬ IsFirst u) : Lone (front ++ v :: back)

theorem not_lone_nil : ¬ Lone [] := by
  intro wrong
  generalize same : ([] : List Nat) = all at wrong
  cases wrong with
  | first => exact List.append_ne_nil_of_right_ne_nil _ (List.cons_ne_nil _ _) same.symm
  | second => exact List.append_ne_nil_of_right_ne_nil _ (List.cons_ne_nil _ _) same.symm

/-- What is wrong stays wrong behind units that do not end in a first half. -/
theorem Lone.append (before : List Nat) {us : List Nat} (other : ∀ u ∈ before.getLast?, ¬ IsFirst u)
    (h : Lone us) : Lone (before ++ us) := by
  cases h with
  | first front half alone =>
    rw [← List.append_assoc]
    exact .first (before ++ front) half alone
  | second front half alone =>
    rw [← List.append_assoc]
    refine .second (before ++ front) half ?_
    intro u last
    rw [List.getLast?_append] at last
    cases ends : front.getLast? with
    | none =>
      rw [ends, Option.none_or] at last
      exact other u last
    | some w =>
      rw [ends, Option.some_or] at last
      exact alone u (ends.trans last)

/-- A unit that is no half has no part in what is wrong. -/
theorem lone_cons_iff {w : Nat} {us : List Nat} (not_first : ¬ IsFirst w) (not_second : ¬ IsSecond w) :
    Lone (w :: us) ↔ Lone us := by
  constructor
  · intro h
    generalize same : w :: us = all at h
    cases h with
    | first front half alone =>
      cases front with
      | nil =>
        cases same
        exact absurd half not_first
      | cons x front =>
        cases same
        exact .first front half alone
    | second front half alone =>
      cases front with
      | nil =>
        cases same
        exact absurd half not_second
      | cons x front =>
        cases same
        cases front with
        | nil => exact .second [] half (by simp)
        | cons y front => exact .second (y :: front) half alone
  · intro h
    refine Lone.append [w] ?_ h
    rintro u ⟨⟩
    exact not_first

/-- Nor has a pair. -/
theorem lone_pair_iff {u v : Nat} {us : List Nat} (first : IsFirst u) (second : IsSecond v) :
    Lone (u :: v :: us) ↔ Lone us := by
  have not_second : ¬ IsSecond u := by
    intro h
    exact Nat.not_lt.mpr h.1 first.2
  have not_first : ¬ IsFirst v := by
    intro h
    exact Nat.not_lt.mpr second.1 h.2
  constructor
  · intro h
    generalize same : u :: v :: us = all at h
    cases h with
    | first front half alone =>
      rcases front with _ | ⟨x, _ | ⟨y, front⟩⟩
      · cases same
        exact absurd second (alone v rfl)
      · cases same
        exact absurd half not_first
      · cases same
        exact .first front half alone
    | second front half alone =>
      rcases front with _ | ⟨x, _ | ⟨y, front⟩⟩
      · cases same
        exact absurd half not_second
      · cases same
        exact absurd first (alone u rfl)
      · cases same
        cases front with
        | nil => exact .second [] half (by simp)
        | cons z front => exact .second (z :: front) half alone
  · intro h
    refine Lone.append [u, v] ?_ h
    rintro w ⟨⟩
    exact not_first

/-- **Units are no text exactly if a half stands alone.** -/
theorem characters_eq_none_iff {us : List Nat} : characters us = none ↔ Lone us := by
  fun_induction characters us with
  | case1 => exact iff_of_false (by simp) not_lone_nil
  | case2 u rest plain ih =>
    rw [Option.map_eq_none_iff, ih, lone_cons_iff]
    · intro h
      exact absurd h.2 (by have := h.1; omega)
    · intro h
      exact absurd h.2 (by have := h.1; omega)
  | case3 u half v rest pair ih =>
    rw [Option.map_eq_none_iff, ih, lone_pair_iff ⟨by omega, pair.1⟩ pair.2]
  | case4 u half v rest apart =>
    refine iff_of_true rfl ?_
    by_cases first : u < 0xDC00
    · refine .first [] ⟨by omega, first⟩ ?_
      rintro _ ⟨⟩ second
      exact apart ⟨first, second⟩
    · exact .second [] ⟨by omega, by omega⟩ (by simp)
  | case5 u half =>
    refine iff_of_true rfl ?_
    by_cases first : u < 0xDC00
    · exact .first [] ⟨by omega, first⟩ (by simp)
    · exact .second [] ⟨by omega, by omega⟩ (by simp)

/-! ## The reader -/

theorem words_lt (bytes : Bytes) : ∀ u ∈ words bytes, u < 0x10000 := by
  fun_induction words bytes with
  | case1 a b rest ih =>
    have := a.toNat_lt
    have := b.toNat_lt
    exact List.forall_mem_cons.mpr ⟨by omega, ih⟩
  | case2 => exact List.forall_mem_nil _

/-- Octets that pair up are those of their units. -/
theorem flatMap_words {bytes : Bytes} (even : bytes.length % 2 = 0) :
    (words bytes).flatMap (Bytes.littleEndian 2) = bytes := by
  fun_induction words bytes with
  | case1 a b rest ih =>
    rw [List.length_cons, List.length_cons] at even
    rw [List.flatMap_cons, littleEndian_eq rfl, ih (by omega)]
    rfl
  | case2 bytes short =>
    rcases bytes with _ | ⟨a, _ | ⟨b, rest⟩⟩
    · rfl
    · cases even
    · exact absurd rfl (short a b rest)

theorem toNat_ofNat {n : Nat} (h : n < 0xD800 ∨ 0xDFFF < n ∧ n < 0x110000) :
    (Char.ofNat n).toNat = n := by
  rw [Char.ofNat, dif_pos h]
  rfl

/-- Units that are read are those of what they are read as. -/
theorem eq_of_characters {us : List Nat} {cs : List Char} (h : characters us = some cs)
    (small : ∀ u ∈ us, u < 0x10000) : us = cs.flatMap units := by
  fun_induction characters us generalizing cs with
  | case1 =>
    cases h
    rfl
  | case2 u rest plain ih =>
    obtain ⟨cs, read, rfl⟩ := Option.map_eq_some_iff.mp h
    obtain ⟨bound, small⟩ := List.forall_mem_cons.mp small
    have itself : (Char.ofNat u).toNat = u := toNat_ofNat (by omega)
    rw [List.flatMap_cons, units_of_plane (by omega), itself, ← ih read small, List.singleton_append]
  | case3 u half v rest pair ih =>
    obtain ⟨cs, read, rfl⟩ := Option.map_eq_some_iff.mp h
    simp only [List.forall_mem_cons] at small
    have whole := toNat_ofNat (n := 0x10000 + (u - 0xD800) * 0x400 + (v - 0xDC00)) (by omega)
    have high : 0xD800 + ((u - 0xD800) * 0x400 + (v - 0xDC00)) / 0x400 = u := by omega
    have low : 0xDC00 + ((u - 0xD800) * 0x400 + (v - 0xDC00)) % 0x400 = v := by omega
    rw [List.flatMap_cons, units_of_pair (by omega), whole, ← ih read small.2.2, Nat.add_assoc,
      Nat.add_sub_cancel_left, high, low]
    rfl
  | case4 => cases h
  | case5 => cases h

/-- **Strictness**: octets read as a text exactly if they are the octets of that text. -/
theorem decode_eq_ok_iff {bytes : Bytes} {s : String} : decode bytes = .ok s ↔ bytes = encode s := by
  constructor
  · intro h
    unfold decode at h
    split at h
    next => cases h
    next even =>
      split at h
      next cs read =>
        cases h
        rw [encode, String.toList_ofList, ← List.flatMap_assoc,
          ← eq_of_characters read (words_lt bytes), flatMap_words (by omega)]
      next => cases h
  · rintro rfl
    exact decode_encode s

/-- **Octets that are of no text** do not pair up, or leave a half alone. -/
theorem not_encode_iff {bytes : Bytes} :
    (∀ s, bytes ≠ encode s) ↔ bytes.length % 2 = 1 ∨ Lone (words bytes) := by
  constructor
  · intro none
    by_cases odd : bytes.length % 2 = 1
    · exact .inl odd
    · refine .inr (characters_eq_none_iff.mp ?_)
      cases read : characters (words bytes) with
      | none => rfl
      | some cs =>
        have decoded : decode bytes = .ok (String.ofList cs) := by
          rw [decode, if_neg (by omega), read]
        exact absurd (decode_eq_ok_iff.mp decoded) (none _)
  · rintro wrong s same
    have decoded := decode_eq_ok_iff.mpr same
    unfold decode at decoded
    rcases wrong with odd | lone
    · rw [if_pos (by omega)] at decoded
      cases decoded
    · rw [characters_eq_none_iff.mpr lone] at decoded
      split at decoded <;> cases decoded

end Hostlink.Utf16
