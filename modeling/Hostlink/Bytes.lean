/-!
# Byte strings

`Bytes` is `List UInt8`, the carrier on which every codec of this library is a plain recursion.
Integers in messages are little-endian and of a fixed width; the two directions are
`littleEndian` and `value`, and the width decides what is lost: `value_littleEndian` says that
reading back gives the number modulo `256 ^ width`.
-/

namespace Hostlink

/-- A finite string of octets. -/
abbrev Bytes := List UInt8

namespace Bytes

/-- The `width` low octets of a number, least significant first. -/
def littleEndian : (width : Nat) → Nat → Bytes
  | 0, _ => []
  | width + 1, n => UInt8.ofNat n :: littleEndian width (n / 256)

/-- The number whose octets, least significant first, these are. -/
def value : Bytes → Nat
  | [] => 0
  | b :: rest => b.toNat + 256 * value rest

/-- The `length` octets that start at `offset`, if the string reaches that far. -/
def slice? (b : Bytes) (offset length : Nat) : Option Bytes :=
  if offset + length ≤ b.length then some ((b.drop offset).take length) else none

/-- `count` octets of zero. -/
def zeros (count : Nat) : Bytes := List.replicate count 0

@[simp] theorem length_littleEndian (width n : Nat) : (littleEndian width n).length = width := by
  induction width generalizing n with
  | zero => rfl
  | succ width ih => simp [littleEndian, ih]

/-- Reading back a fixed-width integer gives it modulo what the width can hold. -/
theorem value_littleEndian (width n : Nat) : value (littleEndian width n) = n % Nat.pow 256 width := by
  induction width generalizing n with
  | zero => simp [littleEndian, value, Nat.mod_one]
  | succ width ih =>
    simp only [littleEndian, value, ih]
    have h : Nat.pow 256 (width + 1) = 256 * Nat.pow 256 width := Nat.pow_succ'
    rw [h, Nat.mod_mul]
    simp

/-- A number is less than what as many octets can count. -/
theorem value_lt {width : Nat} {b : Bytes} (short : b.length ≤ width) :
    value b < Nat.pow 256 width := by
  induction b generalizing width with
  | nil => exact Nat.pow_pos (by decide)
  | cons first rest ih =>
    obtain ⟨width, rfl⟩ : ∃ w, width = w + 1 := Nat.exists_eq_add_one.mpr (Nat.zero_lt_of_lt short)
    have small : first.toNat < 256 := first.toNat_lt
    have more : value rest < Nat.pow 256 width := ih (Nat.le_of_succ_le_succ short)
    have power : Nat.pow 256 (width + 1) = 256 * Nat.pow 256 width := Nat.pow_succ'
    rw [value, power]
    omega

/-- What stands behind a front is found where the front ends. -/
theorem slice?_append (front part rest : Bytes) :
    (front ++ (part ++ rest)).slice? front.length part.length = some part := by
  have inside : front.length + part.length ≤ (front ++ (part ++ rest)).length := by
    simp only [List.length_append]
    omega
  rw [slice?, if_pos inside, List.drop_left, List.take_left]

end Bytes

end Hostlink
