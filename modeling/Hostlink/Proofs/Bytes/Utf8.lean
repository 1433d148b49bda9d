import Hostlink.Bytes.Utf8
import Hostlink.Proofs.Bytes.Checked
import Hostlink.Proofs.Bytes.Utf16

/-!
# Characters in octets

In UTF-8 the first octet of a character tells itself from the others, `octets_of_char`. So a search
among octets can only end where a character begins: `starts_iff` says that the octets of a mark stand
in those of a text exactly where the mark stands in the text. Between the characters a text can be
cut, `isBoundary_octets`, and what is cut out reads back as the characters, `decode?_octets`.
-/

namespace Hostlink.Utf8

/-- The octets of characters. -/
def octets (cs : List Char) : Bytes := cs.flatMap String.utf8EncodeChar

/-- How many octets characters take up. -/
def size (cs : List Char) : Nat := (octets cs).length

/-- Whether a character begins with this octet, and does not go on with it. -/
def leads (b : UInt8) : Bool := b < 0x80 || 0xC0 ≤ b

theorem encode_eq_octets (s : String) : encode s = octets s.toList := rfl

theorem encode_ofList (cs : List Char) : encode (.ofList cs) = octets cs := by
  rw [encode_eq_octets, String.toList_ofList]

@[simp] theorem octets_nil : octets [] = [] := rfl

theorem octets_cons (c : Char) (cs : List Char) :
    octets (c :: cs) = String.utf8EncodeChar c ++ octets cs := List.flatMap_cons

@[simp] theorem octets_append (a b : List Char) : octets (a ++ b) = octets a ++ octets b :=
  List.flatMap_append

@[simp] theorem size_append (a b : List Char) : size (a ++ b) = size a + size b := by
  rw [size, octets_append, List.length_append, size, size]

/-! ## Single characters -/

/-- **The octets of a character**: the first one leads, and none of the others. -/
theorem octets_of_char (c : Char) : ∃ first rest, String.utf8EncodeChar c = first :: rest ∧
    leads first = true ∧ ∀ b ∈ rest, leads b = false := by
  have leading {n : Nat} (h : n < 128 ∨ 192 ≤ n) (small : n < 256) : leads (UInt8.ofNat n) = true := by
    simp only [leads, Bool.or_eq_true, decide_eq_true_eq, UInt8.lt_iff_toNat_lt, UInt8.le_iff_toNat_le,
      UInt8.toNat_ofNat', UInt8.reduceToNat]
    omega
  have following (n : Nat) : leads (UInt8.ofNat (n % 64 + 128)) = false := by
    simp only [leads, Bool.or_eq_false_iff, decide_eq_false_iff_not, UInt8.lt_iff_toNat_lt,
      UInt8.le_iff_toNat_le, UInt8.toNat_ofNat', UInt8.reduceToNat]
    omega
  rw [String.utf8EncodeChar]
  split
  · exact ⟨_, _, rfl, leading (by omega) (by omega), List.forall_mem_nil _⟩
  split
  · exact ⟨_, _, rfl, leading (by omega) (by omega), List.forall_mem_singleton.mpr (following _)⟩
  split
  · refine ⟨_, _, rfl, leading (by omega) (by omega), List.forall_mem_cons.mpr ⟨following _, ?_⟩⟩
    exact List.forall_mem_singleton.mpr (following _)
  · refine ⟨_, _, rfl, leading (by omega) (by omega), List.forall_mem_cons.mpr ⟨following _, ?_⟩⟩
    exact List.forall_mem_cons.mpr ⟨following _, List.forall_mem_singleton.mpr (following _)⟩

/-- No character's octets begin with those of another. -/
theorem char_unique {c d : Char} {x y : Bytes}
    (same : String.utf8EncodeChar c ++ x = String.utf8EncodeChar d ++ y) : c = d ∧ x = y := by
  have read (c : Char) (x : Bytes) :
      (String.utf8EncodeChar c ++ x).toByteArray.utf8DecodeChar? 0 = some c := by
    have single : [c].utf8Encode = (String.utf8EncodeChar c).toByteArray := by
      simp only [List.utf8Encode, List.flatMap_singleton]
    rw [List.toByteArray_append, ← single]
    exact ByteArray.utf8DecodeChar?_append_eq_some List.utf8DecodeChar?_utf8Encode_singleton _
  have other := read d y
  rw [← same, read c x] at other
  obtain rfl : c = d := Option.some.inj other
  exact ⟨rfl, List.append_cancel_left same⟩

/-- The octets of characters begin with those of others exactly if the characters do. -/
theorem octets_prefix_iff {mark text : List Char} : octets mark <+: octets text ↔ mark <+: text := by
  constructor
  · intro begins
    induction mark generalizing text with
    | nil => exact List.nil_prefix
    | cons c mark ih =>
      obtain ⟨behind, same⟩ := begins
      rw [octets_cons, List.append_assoc] at same
      cases text with
      | nil => exact absurd (List.append_eq_nil_iff.mp same).1 String.utf8EncodeChar_ne_nil
      | cons d text =>
        obtain ⟨rfl, more⟩ := char_unique same
        exact List.cons_prefix_cons.mpr ⟨rfl, ih ⟨behind, more⟩⟩
  · rintro ⟨rest, rfl⟩
    rw [octets_append]
    exact List.prefix_append _ _

theorem octets_ne_nil {cs : List Char} (inhabited : cs ≠ []) : octets cs ≠ [] := by
  obtain ⟨c, cs, rfl⟩ := List.exists_cons_of_ne_nil inhabited
  rw [octets_cons]
  exact List.append_ne_nil_of_left_ne_nil String.utf8EncodeChar_ne_nil _

/-! ## Places in a text -/

/-- **The octets of a mark stand only where the mark does.** By induction on the text: inside of a
character there is no octet with which the mark could begin. -/
theorem starts_iff {mark text : List Char} (inhabited : mark ≠ []) {offset : Nat} :
    octets mark <+: (octets text).drop offset ↔
      ∃ before rest, text = before ++ (mark ++ rest) ∧ size before = offset := by
  constructor
  · intro begins
    induction text generalizing offset with
    | nil =>
      rw [octets_nil, List.drop_nil, List.prefix_nil] at begins
      exact absurd begins (octets_ne_nil inhabited)
    | cons c text ih =>
      obtain ⟨first, more, char, -, following⟩ := octets_of_char c
      rcases Nat.lt_or_ge offset (first :: more).length with inside | beyond
      · cases offset with
        | zero =>
          obtain ⟨rest, whole⟩ := octets_prefix_iff.mp begins
          exact ⟨[], rest, whole.symm, rfl⟩
        | succ offset =>
          -- the octet that stands there leads the mark, and goes on with the character
          obtain ⟨m, mark, rfl⟩ := List.exists_cons_of_ne_nil inhabited
          obtain ⟨lead, _, markChar, leading, -⟩ := octets_of_char m
          have within : offset < more.length := Nat.lt_of_succ_lt_succ inside
          rw [octets_cons, octets_cons, char, markChar, List.cons_append, List.cons_append,
            List.drop_succ_cons, List.drop_append_of_le_length (Nat.le_of_lt within),
            List.drop_eq_getElem_cons within, List.cons_append, List.cons_prefix_cons] at begins
          have trailing := following _ (List.getElem_mem within)
          rw [← begins.1, leading] at trailing
          cases trailing
      · rw [octets_cons, char, List.drop_append, List.drop_of_length_le beyond, List.nil_append]
          at begins
        obtain ⟨before, rest, rfl, place⟩ := ih begins
        refine ⟨c :: before, rest, rfl, ?_⟩
        rw [size, octets_cons, List.length_append, char, ← size, place]
        omega
  · rintro ⟨before, rest, rfl, rfl⟩
    rw [octets_append, size, List.drop_left, octets_append]
    exact List.prefix_append _ _

/-- There is a boundary behind every character, and before every one. -/
theorem isBoundary_octets (before rest : List Char) :
    isBoundary (octets (before ++ rest)) (size before) = true := by
  rw [octets_append, isBoundary, size]
  cases rest with
  | nil => simp only [octets_nil, List.append_nil, beq_self_eq_true, Bool.true_or]
  | cons c rest =>
    obtain ⟨first, more, char, leading, -⟩ := octets_of_char c
    rw [octets_cons, char, List.getElem?_append_right (Nat.le_refl _), Nat.sub_self, List.cons_append,
      List.getElem?_cons_zero]
    exact Bool.or_eq_true_iff.mpr (.inr leading)

/-- Between boundaries stands what stands between the characters. -/
theorem between?_octets (before part rest : List Char) :
    between? (octets (before ++ (part ++ rest))) (size before) (size before + size part) =
      some (octets part) := by
  have stop := isBoundary_octets (before ++ part) rest
  rw [List.append_assoc, size_append] at stop
  rw [between?, isBoundary_octets, stop, Bool.and_self, if_pos rfl, Bytes.between?_add, octets_append,
    octets_append]
  exact Bytes.slice?_append _ _ _

/-! ## Reading characters back -/

theorem start_two {b : Nat} (lead : 0xC2 ≤ b ∧ b ≤ 0xDF) :
    start b = ([], .owing 1 0x80 0xBF (b - 0xC0)) := by
  rw [start, if_neg (by omega), if_pos lead]

/-- What follows the first octet of three, which bounds the second. -/
theorem start_three (b next : Nat) (lead : 0xE0 ≤ b ∧ b ≤ 0xEF) (tail : 0x80 ≤ next ∧ next ≤ 0xBF)
    (low : b = 0xE0 → 0xA0 ≤ next) (high : b = 0xED → next ≤ 0x9F) :
    ∃ l h, start b = ([], .owing 2 l h (b - 0xE0)) ∧ l ≤ next ∧ next ≤ h := by
  rw [start, if_neg (by omega), if_neg (by omega)]
  by_cases first : b = 0xE0
  · exact ⟨_, _, by rw [if_pos first, first], low first, tail.2⟩
  rw [if_neg first]
  by_cases surrogates : b = 0xED
  · exact ⟨_, _, by rw [if_pos surrogates, surrogates], tail.1, high surrogates⟩
  rw [if_neg surrogates, if_pos (by omega)]
  exact ⟨_, _, rfl, tail⟩

/-- What follows the first octet of four, which bounds the second. -/
theorem start_four (b next : Nat) (lead : 0xF0 ≤ b ∧ b ≤ 0xF4) (tail : 0x80 ≤ next ∧ next ≤ 0xBF)
    (low : b = 0xF0 → 0x90 ≤ next) (high : b = 0xF4 → next ≤ 0x8F) :
    ∃ l h, start b = ([], .owing 3 l h (b - 0xF0)) ∧ l ≤ next ∧ next ≤ h := by
  rw [start, if_neg (by omega), if_neg (by omega), if_neg (by omega), if_neg (by omega),
    if_neg (by omega)]
  by_cases first : b = 0xF0
  · exact ⟨_, _, by rw [if_pos first, first], low first, tail.2⟩
  rw [if_neg first]
  by_cases last : b = 0xF4
  · exact ⟨_, _, by rw [if_neg (by omega), if_pos last, last], tail.1, high last⟩
  rw [if_pos (by omega)]
  exact ⟨_, _, rfl, tail⟩

section Steps

variable {read : List (Option Char)} {n low high value : Nat}

/-- An octet that comes in between. -/
theorem step_next {count : Nat} (more : 2 ≤ count) (small : n < 256) (range : low ≤ n ∧ n ≤ high) :
    step (read, .owing count low high value) (UInt8.ofNat n) =
      (read, .owing (count - 1) 0x80 0xBF (value * 64 + n % 64)) := by
  have same : (UInt8.ofNat n).toNat = n := UInt8.toNat_ofNat_of_lt' small
  simp only [step, Pending.push, same, if_pos range, if_neg (Nat.not_le_of_lt more), List.reverse_nil,
    List.nil_append]

/-- The last octet of a character. -/
theorem step_last (small : n < 256) (range : low ≤ n ∧ n ≤ high) :
    step (read, .owing 1 low high value) (UInt8.ofNat n) =
      (some (Char.ofNat (value * 64 + n % 64)) :: read, .idle) := by
  have same : (UInt8.ofNat n).toNat = n := UInt8.toNat_ofNat_of_lt' small
  simp only [step, Pending.push, same, if_pos range, if_pos (Nat.le_refl 1), List.reverse_singleton,
    List.singleton_append]

/-- The first octet of several. -/
theorem step_first {next : Pending} (small : n < 256) (begins : start n = ([], next)) :
    step (read, .idle) (UInt8.ofNat n) = (read, next) := by
  have same : (UInt8.ofNat n).toNat = n := UInt8.toNat_ofNat_of_lt' small
  simp only [step, Pending.push, same, begins, List.reverse_nil, List.nil_append]

end Steps

/-- **A character is read from its octets.** The cases are their numbers. -/
theorem foldl_step_char (read : List (Option Char)) (c : Char) :
    (String.utf8EncodeChar c).foldl step (read, .idle) = (some c :: read, .idle) := by
  have range := Utf16.toNat_range c
  have back {value : Nat} (same : value = c.toNat) : Char.ofNat value = c := by
    rw [same, Char.ofNat_toNat]
  obtain ⟨n, number⟩ : ∃ n, c.toNat = n := ⟨_, rfl⟩
  have spelled : c.val.toNat = n := number
  rw [number] at range back
  rw [String.utf8EncodeChar, spelled]
  split
  · have ascii : start n = ([some c], .idle) := by rw [start, if_pos (by omega), back rfl]
    have same : (UInt8.ofNat n).toNat = n := UInt8.toNat_ofNat_of_lt' (show n < 256 by omega)
    simp only [List.foldl_cons, List.foldl_nil, step, Pending.push, same, ascii,
      List.reverse_singleton, List.singleton_append]
  split
  · rw [List.foldl_cons, step_first (by omega) (start_two (by omega)), List.foldl_cons,
      step_last (by omega) (by omega), List.foldl_nil, back (by omega)]
  split
  · obtain ⟨l, h, begins, second⟩ := start_three (n / 4096 % 16 + 224)
      (n / 64 % 64 + 128) (by omega) (by omega) (by omega) (by omega)
    rw [List.foldl_cons, step_first (by omega) begins, List.foldl_cons,
      step_next (Nat.le_refl 2) (by omega) second, List.foldl_cons, step_last (by omega) (by omega),
      List.foldl_nil, back (by omega)]
  · obtain ⟨l, h, begins, second⟩ := start_four (n / 262144 % 8 + 240)
      (n / 4096 % 64 + 128) (by omega) (by omega) (by omega) (by omega)
    rw [List.foldl_cons, step_first (by omega) begins, List.foldl_cons,
      step_next (by omega) (by omega) second, List.foldl_cons,
      step_next (Nat.le_refl 2) (by omega) (by omega), List.foldl_cons,
      step_last (by omega) (by omega), List.foldl_nil, back (by omega)]

theorem scan_octets (cs : List Char) : scan (octets cs) = cs.map some := by
  have folded (read : List (Option Char)) :
      (octets cs).foldl step (read, .idle) = ((cs.map some).reverse ++ read, .idle) := by
    induction cs generalizing read with
    | nil => rfl
    | cons c cs ih =>
      rw [octets_cons, List.foldl_append, foldl_step_char, ih, List.map_cons, List.reverse_cons,
        List.append_assoc, List.singleton_append]
  rw [scan, folded, List.append_nil]
  exact List.reverse_reverse _

/-- **Characters are read back from their octets.** -/
theorem decode?_octets (cs : List Char) : decode? (octets cs) = some (String.ofList cs) := by
  have all : (cs.map some).mapM id = some cs := by
    induction cs with
    | nil => rfl
    | cons c cs ih =>
      rw [List.map_cons, List.mapM_cons, ih]
      rfl
  rw [decode?, scan_octets, all, Option.map_some]

end Hostlink.Utf8
