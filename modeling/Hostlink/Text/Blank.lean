/-!
# Blank characters

The characters with the Unicode property `White_Space`, and texts without them at the ends.
-/

namespace Hostlink.Text

/-- Whether a character has the property `White_Space`. -/
def isBlank (c : Char) : Bool :=
  let n := c.toNat
  (9 ≤ n && n ≤ 13) || n == 0x20 || n == 0x85 || n == 0xA0 || n == 0x1680 ||
    (0x2000 ≤ n && n ≤ 0x200A) || n == 0x2028 || n == 0x2029 || n == 0x202F || n == 0x205F ||
    n == 0x3000

/-- A list of characters without the blank ones at its two ends. -/
def trimChars (cs : List Char) : List Char :=
  ((cs.dropWhile isBlank).reverse.dropWhile isBlank).reverse

/-- A text without the blank characters at its two ends. -/
def trim (s : String) : String := String.ofList (trimChars s.toList)

/-! ## Trimming twice -/

theorem dropWhile_of_head {p : Char → Bool} {cs : List Char} (h : ∀ c ∈ cs.head?, p c = false) :
    cs.dropWhile p = cs := by
  cases cs with
  | nil => rfl
  | cons c cs => exact List.dropWhile_cons_of_neg (Bool.eq_false_iff.mp (h c rfl))

theorem head?_dropWhile (p : Char → Bool) (cs : List Char) :
    ∀ c ∈ (cs.dropWhile p).head?, p c = false := by
  intro c first
  have h := List.head?_dropWhile_not p cs
  rw [first] at h
  exact h

/-- What is left without the blanks at its ends has none there. -/
theorem trimChars_trimChars (cs : List Char) : trimChars (trimChars cs) = trimChars cs := by
  -- what is cut off the end leaves the first character where it is
  have front : (trimChars cs).dropWhile isBlank = trimChars cs := by
    have start : trimChars cs <+: cs.dropWhile isBlank := by
      rw [← List.reverse_suffix, trimChars, List.reverse_reverse]
      exact List.dropWhile_suffix isBlank
    obtain ⟨rest, whole⟩ := start
    refine dropWhile_of_head fun c first => head?_dropWhile isBlank cs c ?_
    rw [← whole, List.head?_append, first]
    rfl
  have back : (trimChars cs).reverse.dropWhile isBlank = (trimChars cs).reverse := by
    rw [trimChars, List.reverse_reverse]
    exact dropWhile_of_head (head?_dropWhile isBlank _)
  rw [trimChars, front, back, List.reverse_reverse]

/-- A text without blanks at its ends is what trimming leaves alone. -/
theorem trimChars_eq_self_iff {cs : List Char} :
    trimChars cs = cs ↔
      (∀ c ∈ cs.head?, isBlank c = false) ∧ ∀ c ∈ cs.getLast?, isBlank c = false := by
  constructor
  · intro same
    have front : cs.dropWhile isBlank = cs := by
      refine (List.dropWhile_suffix isBlank).eq_of_length_le ?_
      have shorter := (List.dropWhile_sublist isBlank (l := (cs.dropWhile isBlank).reverse)).length_le
      rw [← List.length_reverse, ← trimChars, same, List.length_reverse] at shorter
      exact shorter
    rw [trimChars, front] at same
    have back : cs.reverse.dropWhile isBlank = cs.reverse := List.reverse_eq_iff.mp same
    refine ⟨front ▸ head?_dropWhile isBlank cs, ?_⟩
    rw [← List.head?_reverse, ← back]
    exact head?_dropWhile isBlank cs.reverse
  · rintro ⟨first, last⟩
    rw [← List.head?_reverse] at last
    rw [trimChars, dropWhile_of_head first, dropWhile_of_head last, List.reverse_reverse]

theorem trimChars_of_solid {cs : List Char} (solid : ∀ c ∈ cs, isBlank c = false) :
    trimChars cs = cs :=
  trimChars_eq_self_iff.mpr ⟨fun c first => solid c (List.mem_of_head? first),
    fun c last => solid c (List.mem_of_getLast? last)⟩

/-- Blanks around a text are cut off with its own. -/
theorem trimChars_around {front back : List Char} (before : ∀ c ∈ front, isBlank c = true)
    (behind : ∀ c ∈ back, isBlank c = true) (cs : List Char) :
    trimChars (front ++ cs ++ back) = trimChars cs := by
  have turned : ∀ c ∈ back.reverse, isBlank c = true := fun c among =>
    behind c (List.mem_reverse.mp among)
  rw [trimChars, List.append_assoc, List.dropWhile_append_of_pos before, List.dropWhile_append]
  split
  next blank =>
    have none : back.dropWhile isBlank = [] := by
      rw [← List.append_nil back, List.dropWhile_append_of_pos behind, List.dropWhile_nil]
    rw [none, trimChars, List.isEmpty_iff.mp blank]
  next =>
    rw [List.reverse_append, List.dropWhile_append_of_pos turned, trimChars]

end Hostlink.Text
