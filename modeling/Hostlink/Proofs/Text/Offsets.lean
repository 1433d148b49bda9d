import Hostlink.Proofs.Bytes.Utf8
import Hostlink.Proofs.Text.Skip

/-!
# Cutting by offsets

A machine does not take a text apart as `cut?` does. It looks for the octets of a mark among those of
the text and goes on from the offset at which they stand, `offset?`; what lies between two offsets it
takes as a text, and that can be refused, `part?`. Offsets are those of places in the text, `Stands`,
as long as they come from such searches; and then no part is refused, and what is found is what `cut?`
finds, `offset?_eq`.
-/

namespace Hostlink.Text

open Utf8 (octets size)

/-- The first offset at which the octets of a mark stand among those of a text. -/
def offset? (mark text : List Char) : Option Nat :=
  (List.range (size text + 1)).find? fun i => (octets mark).isPrefixOf ((octets text).drop i)

/-- The part of a text from one offset to another, if these are in order, within the text and between
its characters. -/
def part? (text : List Char) (start stop : Nat) : Option (List Char) := do
  let part ← Utf8.between? (octets text) start stop
  let read ← Utf8.decode? part
  return read.toList

/-- The part of a text from an offset on. -/
def behind? (text : List Char) (start : Nat) : Option (List Char) := part? text start (size text)

/-! ## The first place of a mark -/

/-- A cut is made at the first place of a mark. By induction on what stands before another one. -/
theorem cut?_first {mark : List Char} (inhabited : mark ≠ []) (before rest : List Char) :
    ∃ a b, cut? mark (before ++ (mark ++ rest)) = some (a, b) ∧ a <+: before := by
  induction before with
  | nil => exact ⟨[], rest, cut?_mark inhabited rest, List.nil_prefix⟩
  | cons c before ih =>
    obtain ⟨a, b, later, front⟩ := ih
    rw [cut?] at later ⊢
    rw [List.cons_append, cutFrom?]
    split
    · exact ⟨[], _, rfl, List.nil_prefix⟩
    · rw [cutFrom?_eq, later]
      exact ⟨c :: a, b, rfl, List.cons_prefix_cons.mpr ⟨rfl, front⟩⟩

/-- A mark is found where it stands. -/
theorem begins_iff {mark text : List Char} (inhabited : mark ≠ []) {offset : Nat} :
    (octets mark).isPrefixOf ((octets text).drop offset) = true ↔
      ∃ before rest, text = before ++ (mark ++ rest) ∧ size before = offset :=
  List.isPrefixOf_iff_prefix.trans (Utf8.starts_iff inhabited)

theorem size_le_of_begins {a b : List Char} (front : a <+: b) : size a ≤ size b := by
  obtain ⟨rest, rfl⟩ := front
  rw [Utf8.size_append]
  exact Nat.le_add_right _ _

/-- **A search by offsets finds what a cut finds.** -/
theorem offset?_eq {mark : List Char} (inhabited : mark ≠ []) (text : List Char) :
    offset? mark text = (cut? mark text).map fun found => size found.1 := by
  cases found : cut? mark text with
  | none =>
    refine List.find?_range_eq_none.mpr fun i _ => ?_
    rw [Bool.not_eq_true', Bool.eq_false_iff, ne_eq, begins_iff inhabited]
    rintro ⟨before, rest, rfl, -⟩
    obtain ⟨a, b, cut, -⟩ := cut?_first inhabited before rest
    cases found.symm.trans cut
  | some parts =>
    obtain ⟨a, b⟩ := parts
    obtain rfl := eq_append_of_cut? found
    rw [List.append_assoc] at found ⊢
    refine List.find?_range_eq_some.mpr ⟨?_, ?_, fun i earlier => ?_⟩
    · exact (begins_iff inhabited).mpr ⟨a, b, rfl, rfl⟩
    · rw [List.mem_range, Utf8.size_append]
      exact Nat.lt_succ_of_le (Nat.le_add_right _ _)
    · rw [Bool.not_eq_true', Bool.eq_false_iff, ne_eq, begins_iff inhabited]
      rintro ⟨before, rest, same, rfl⟩
      obtain ⟨a', b', cut, front⟩ := cut?_first inhabited before rest
      rw [← same, found] at cut
      cases cut
      exact Nat.not_lt_of_le (size_le_of_begins front) earlier

/-! ## Places -/

/-- **A place in a text**: what stands behind an offset. -/
def Stands (text : List Char) (offset : Nat) (rest : List Char) : Prop :=
  ∃ before, text = before ++ rest ∧ size before = offset

namespace Stands

variable {text rest a b mark : List Char} {offset : Nat}

theorem start (text : List Char) : Stands text 0 text := ⟨[], rfl, rfl⟩

theorem le_size (h : Stands text offset rest) : offset ≤ size text := by
  obtain ⟨before, rfl, rfl⟩ := h
  rw [Utf8.size_append]
  exact Nat.le_add_right _ _

theorem isBoundary (h : Stands text offset rest) : Utf8.isBoundary (octets text) offset = true := by
  obtain ⟨before, rfl, rfl⟩ := h
  exact Utf8.isBoundary_octets before rest

/-- Behind some of the characters there is another place. -/
theorem further (h : Stands text offset (a ++ rest)) : Stands text (offset + size a) rest := by
  obtain ⟨before, rfl, rfl⟩ := h
  exact ⟨before ++ a, (List.append_assoc _ _ _).symm, Utf8.size_append _ _⟩

/-- **What stands between two places can be taken.** -/
theorem part?_eq (h : Stands text offset (a ++ rest)) :
    part? text offset (offset + size a) = some a := by
  obtain ⟨before, rfl, rfl⟩ := h
  rw [part?, Utf8.between?_octets, Option.bind_eq_bind, Option.bind_some, Utf8.decode?_octets,
    Option.bind_eq_bind, Option.bind_some, String.toList_ofList]
  rfl

/-- A part that ends inside of a character is refused. -/
example : part? ['é', '<'] 0 1 = none ∧ part? ['é', '<'] 0 2 = some ['é'] := by decide

/-- What stands behind a place can be taken. -/
theorem behind?_eq (h : Stands text offset rest) : behind? text offset = some rest := by
  have whole : Stands text offset (rest ++ []) := by rwa [List.append_nil]
  obtain ⟨before, rfl, rfl⟩ := h
  rw [behind?, Utf8.size_append]
  exact whole.part?_eq

end Stands

end Hostlink.Text
