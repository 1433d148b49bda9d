/-!
# Even splits

`pieces size xs` cuts a list into consecutive pieces of `size` elements, the last one holding what
is left. A size of zero counts as one, so every piece is inhabited and the cut always ends.
-/

namespace Hostlink

/-- Consecutive pieces of `size` elements each, the last one possibly shorter. -/
def pieces {α : Type} (size : Nat) (xs : List α) : List (List α) :=
  if xs.isEmpty then []
  else xs.take (max size 1) :: pieces size (xs.drop (max size 1))
termination_by xs.length
decreasing_by
  rename_i h
  have : xs ≠ [] := by simpa using h
  have := List.length_pos_iff.mpr this
  simp only [List.length_drop]
  omega

/-- Nothing is lost and nothing is moved. -/
theorem flatten_pieces {α : Type} (size : Nat) (xs : List α) : (pieces size xs).flatten = xs := by
  fun_induction pieces size xs with
  | case1 xs h => simpa using h
  | case2 xs h ih => simp [ih]

theorem pieces_eq_nil_iff {α : Type} {size : Nat} {xs : List α} : pieces size xs = [] ↔ xs = [] := by
  rw [pieces]
  split
  next none => exact iff_of_true rfl (List.isEmpty_iff.mp none)
  next some => exact iff_of_false (List.cons_ne_nil _ _) fun none => some (List.isEmpty_iff.mpr none)

/-- Every piece is inhabited, and none is longer than the size. -/
theorem forall_mem_pieces {α : Type} (size : Nat) (xs : List α) :
    ∀ piece ∈ pieces size xs, piece ≠ [] ∧ piece.length ≤ max size 1 := by
  fun_induction pieces size xs with
  | case1 => exact List.forall_mem_nil _
  | case2 xs h ih =>
    rw [List.forall_mem_cons]
    refine ⟨⟨fun none => ?_, List.length_take_le _ _⟩, ih⟩
    rcases List.take_eq_nil_iff.mp none with zero | none
    · omega
    · exact h (List.isEmpty_iff.mpr none)

/-- Only the last piece can be shorter than the size. -/
theorem length_of_mem_dropLast_pieces {α : Type} (size : Nat) (xs : List α) :
    ∀ piece ∈ (pieces size xs).dropLast, piece.length = max size 1 := by
  fun_induction pieces size xs with
  | case1 => exact List.forall_mem_nil _
  | case2 xs h ih =>
    by_cases last : pieces size (xs.drop (max size 1)) = []
    · rw [last]
      exact List.forall_mem_nil _
    · have more : xs.drop (max size 1) ≠ [] := fun none => last (pieces_eq_nil_iff.mpr none)
      rw [List.dropLast_cons_of_ne_nil last, List.forall_mem_cons]
      refine ⟨List.length_take_of_le ?_, ih⟩
      exact Nat.le_of_lt (Nat.lt_of_not_le fun short => more (List.drop_of_length_le short))

/-- How many pieces of a size it takes to hold a list of a length. -/
def pieceCount (size length : Nat) : Nat := (length + size - 1) / size

theorem pieceCount_zero {size : Nat} (positive : 0 < size) : pieceCount size 0 = 0 :=
  Nat.div_eq_of_lt (by omega)

/-- The first piece leaves one less to go, also where it is not full. -/
theorem pieceCount_of_pos {size length : Nat} (positive : 0 < size) (inhabited : 0 < length) :
    pieceCount size length = pieceCount size (length - size) + 1 := by
  rw [pieceCount, pieceCount, ← Nat.add_div_right _ positive]
  by_cases last : length ≤ size
  · rw [Nat.sub_eq_zero_of_le last]
    exact (Nat.div_eq_of_lt_le (k := 1) (by omega) (by omega)).trans
      (Nat.div_eq_of_lt_le (k := 1) (by omega) (by omega)).symm
  · congr 1
    omega

theorem length_pieces {α : Type} (size : Nat) (xs : List α) :
    (pieces size xs).length = pieceCount (max size 1) xs.length := by
  have positive : 0 < max size 1 := Nat.le_max_right size 1
  fun_induction pieces size xs with
  | case1 xs h =>
    rw [List.isEmpty_iff.mp h]
    exact (pieceCount_zero positive).symm
  | case2 xs h ih =>
    have some : xs ≠ [] := fun none => h (List.isEmpty_iff.mpr none)
    rw [List.length_cons, ih, List.length_drop,
      pieceCount_of_pos positive (List.length_pos_iff.mpr some)]

/-- Cutting does not look at what is cut. -/
theorem pieces_map {α β : Type} (f : α → β) (size : Nat) (xs : List α) :
    pieces size (xs.map f) = (pieces size xs).map (List.map f) := by
  fun_induction pieces size xs with
  | case1 xs h =>
    rw [List.isEmpty_iff.mp h]
    exact pieces_eq_nil_iff.mpr rfl
  | case2 xs h ih =>
    have some : (xs.map f).isEmpty = false := by
      rw [List.isEmpty_map]
      exact Bool.eq_false_iff.mpr h
    rw [pieces, some, if_neg Bool.false_ne_true, ← List.map_take, ← List.map_drop, ih, List.map_cons]

end Hostlink
