import Hostlink.Bytes.Utf16

/-!
# Reading UTF-16 back

A text's octets read back as the text, `decode_encode`. The units of a character tell by their range
what they are: one below or above the surrogates stands for itself, and a pair of surrogates for a
character outside the first plane. So no unit is taken for part of another character, whatever comes
behind it, `characters_units`.
-/

namespace Hostlink.Utf16

theorem length_littleEndian_flatMap (us : List Nat) :
    (us.flatMap (Bytes.littleEndian 2)).length = 2 * us.length := by
  induction us with
  | nil => rfl
  | cons u us ih =>
    rw [List.flatMap_cons, List.length_append, ih, Bytes.length_littleEndian, List.length_cons]
    omega

/-- Units of 16 bits are found again in their octets. -/
theorem words_flatMap {us : List Nat} (small : ∀ u ∈ us, u < 0x10000) :
    words (us.flatMap (Bytes.littleEndian 2)) = us := by
  induction us with
  | nil => rfl
  | cons u us ih =>
    have first : u < 0x10000 := small u List.mem_cons_self
    have low : (UInt8.ofNat u).toNat = u % 256 := UInt8.toNat_ofNat'
    have high : (UInt8.ofNat (u / 256)).toNat = u / 256 % 256 := UInt8.toNat_ofNat'
    show ((UInt8.ofNat u).toNat + 256 * (UInt8.ofNat (u / 256)).toNat) ::
      words (us.flatMap (Bytes.littleEndian 2)) = u :: us
    rw [ih fun v h => small v (List.mem_cons_of_mem u h), low, high]
    congr 1
    omega

theorem units_of_plane {c : Char} (h : c.toNat < 0x10000) : units c = [c.toNat] :=
  if_pos h

theorem units_of_pair {c : Char} (h : ¬ c.toNat < 0x10000) :
    units c = [0xD800 + (c.toNat - 0x10000) / 0x400, 0xDC00 + (c.toNat - 0x10000) % 0x400] :=
  if_neg h

/-- A character is no surrogate, and lies within the planes. -/
theorem toNat_range (c : Char) : c.toNat < 0xD800 ∨ 0xDFFF < c.toNat ∧ c.toNat < 0x110000 :=
  c.valid

theorem units_lt (c : Char) : ∀ u ∈ units c, u < 0x10000 := by
  have range := toNat_range c
  intro u h
  by_cases plane : c.toNat < 0x10000
  · simp only [units_of_plane plane, List.mem_singleton] at h
    omega
  · simp only [units_of_pair plane, List.mem_cons, List.not_mem_nil, or_false] at h
    omega

/-- A unit that is no surrogate is a character. -/
theorem characters_cons {u : Nat} (h : u < 0xD800 ∨ 0xE000 ≤ u) (rest : List Nat) :
    characters (u :: rest) = (characters rest).map (Char.ofNat u :: ·) := by
  rw [characters.eq_def]
  exact if_pos h

/-- A surrogate of the first half and one of the second half are a character. -/
theorem characters_pair {u v : Nat} (first : 0xD800 ≤ u ∧ u < 0xDC00)
    (second : 0xDC00 ≤ v ∧ v < 0xE000) (rest : List Nat) :
    characters (u :: v :: rest) =
      (characters rest).map
        (Char.ofNat (0x10000 + (u - 0xD800) * 0x400 + (v - 0xDC00)) :: ·) := by
  have surrogate : ¬ (u < 0xD800 ∨ 0xE000 ≤ u) := by omega
  rw [characters.eq_def]
  simp only [if_neg surrogate, if_pos (And.intro first.2 second)]

/-- **The units of a character** read back as it, whatever stands behind them. -/
theorem characters_units (c : Char) (rest : List Nat) :
    characters (units c ++ rest) = (characters rest).map (c :: ·) := by
  have range := toNat_range c
  by_cases plane : c.toNat < 0x10000
  · rw [units_of_plane plane, List.singleton_append, characters_cons (by omega), Char.ofNat_toNat]
  · have whole : 0x10000 + (0xD800 + (c.toNat - 0x10000) / 0x400 - 0xD800) * 0x400 +
        (0xDC00 + (c.toNat - 0x10000) % 0x400 - 0xDC00) = c.toNat := by omega
    rw [units_of_pair plane, List.cons_append, List.singleton_append,
      characters_pair (by omega) (by omega), whole, Char.ofNat_toNat]

theorem characters_flatMap (cs : List Char) : characters (cs.flatMap units) = some cs := by
  induction cs with
  | nil => rfl
  | cons c cs ih => rw [List.flatMap_cons, characters_units, ih, Option.map_some]

/-- **A text is read back from its octets.** -/
theorem decode_encode (s : String) : decode (encode s) = .ok s := by
  have flat : encode s = (s.toList.flatMap units).flatMap (Bytes.littleEndian 2) :=
    List.flatMap_assoc.symm
  have small : ∀ u ∈ s.toList.flatMap units, u < 0x10000 := by
    intro u h
    obtain ⟨c, -, hc⟩ := List.mem_flatMap.mp h
    exact units_lt c u hc
  have even : ¬ (encode s).length % 2 ≠ 0 := by
    rw [flat, length_littleEndian_flatMap]
    omega
  rw [decode, if_neg even, flat, words_flatMap small, characters_flatMap]
  exact congrArg Except.ok (String.ofList_toList)

end Hostlink.Utf16
