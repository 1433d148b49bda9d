/-!
# Cutting at a mark

`cut? mark text` splits a text at the first place where `mark` stands: what comes before it, and
what comes after it. Nothing is lost, `eq_append_of_cut?`, so what comes after is shorter than the
whole unless the mark is empty, and a loop that cuts again always ends.
-/

namespace Hostlink.Text

/-- The text before the first `mark`, last character first on top of `before`, and the text after
it. -/
def cutFrom? (mark : List Char) (before : List Char) : List Char → Option (List Char × List Char)
  | [] => if mark.isEmpty then some (before.reverse, []) else none
  | c :: rest =>
    if mark.isPrefixOf (c :: rest) then some (before.reverse, (c :: rest).drop mark.length)
    else cutFrom? mark (c :: before) rest

/-- The text before the first `mark` and the text after it. -/
def cut? (mark text : List Char) : Option (List Char × List Char) := cutFrom? mark [] text

/-- Whether `mark` stands somewhere in the text. -/
def occurs (mark text : List Char) : Bool := (cut? mark text).isSome

theorem eq_append_of_cutFrom? {mark before text a b : List Char}
    (h : cutFrom? mark before text = some (a, b)) : before.reverse ++ text = a ++ mark ++ b := by
  induction text generalizing before with
  | nil =>
    simp only [cutFrom?] at h
    split at h
    · rename_i hm
      simp only [Option.some.injEq, Prod.mk.injEq] at h
      obtain ⟨rfl, rfl⟩ := h
      simp [List.isEmpty_iff.mp hm]
    · simp at h
  | cons c rest ih =>
    simp only [cutFrom?] at h
    split at h
    · rename_i hm
      simp only [Option.some.injEq, Prod.mk.injEq] at h
      obtain ⟨rfl, rfl⟩ := h
      obtain ⟨t, ht⟩ := List.isPrefixOf_iff_prefix.mp hm
      rw [← ht]
      simp
    · have := ih h
      simpa using this

/-- A cut loses nothing. -/
theorem eq_append_of_cut? {mark text a b : List Char} (h : cut? mark text = some (a, b)) :
    text = a ++ mark ++ b := by
  simpa using eq_append_of_cutFrom? h

/-- What comes after an inhabited mark is shorter than the whole. -/
theorem length_lt_of_cut? {mark text a b : List Char} (hm : mark ≠ [])
    (h : cut? mark text = some (a, b)) : b.length < text.length := by
  have hpos := List.length_pos_iff.mpr hm
  have := congrArg List.length (eq_append_of_cut? h)
  simp only [List.length_append] at this
  omega

end Hostlink.Text
