import Hostlink.Text.Integer

/-!
# Integers read back

The decimal text of a number within the bounds reads as that number, `read_toDigits`, and the text
of any number of 32 bits reads as it, `readInt32_toString`. A text is read from the left and written
from the right, so the induction is on the number without its last digit, with the digits still to
come left open.
-/

namespace Hostlink.Text.Integer

/-- A digit is read on top of the digits before it. -/
theorem digits_digitChar {bound n d : Nat} (past : Fault) (digit : d < 10)
    (small : n * 10 + d ≤ bound) (rest : List Char) :
    digits bound past n (Nat.digitChar d :: rest) = digits bound past (n * 10 + d) rest := by
  have value : (Nat.digitChar d).toNat - '0'.toNat = d := Nat.toNat_digitChar_sub_48_of_lt_ten digit
  have isDigit : (Nat.digitChar d).isDigit = true := by
    refine Nat.isDigit_of_mem_toDigits (n := d) (b := 10) (by decide) (by decide) ?_
    rw [Nat.toDigits_of_lt_base digit]
    exact List.mem_cons_self
  rw [digits, if_pos isDigit, value]
  exact if_pos small

/-- **The digits of a number** are read as the number, whatever comes behind them. By induction on
the number without its last digit. -/
theorem digits_toDigits {bound : Nat} (past : Fault) (n : Nat) (small : n ≤ bound)
    (rest : List Char) :
    digits bound past 0 (Nat.toDigits 10 n ++ rest) = digits bound past n rest := by
  induction n using Nat.strongRecOn generalizing rest with
  | ind n ih =>
    by_cases digit : n < 10
    · have alone : 0 * 10 + n = n := by omega
      rw [Nat.toDigits_of_lt_base digit, List.singleton_append,
        digits_digitChar past digit (by omega), alone]
    · have whole : n / 10 * 10 + n % 10 = n := Nat.div_add_mod' n 10
      rw [Nat.toDigits_of_base_le (by decide) (by omega), List.append_assoc,
        ih (n / 10) (by omega) (by omega), List.singleton_append,
        digits_digitChar past (Nat.mod_lt n (by decide)) (by omega), whole]

theorem ne_sign_of_mem_toDigits {n : Nat} {c : Char} (among : c ∈ Nat.toDigits 10 n) :
    c ≠ '+' ∧ c ≠ '-' := by
  have digit := Nat.isDigit_of_mem_toDigits (by decide) (by decide) among
  constructor
  · rintro rfl
    cases digit
  · rintro rfl
    cases digit

/-- A text of digits is read without a sign. -/
theorem read_toDigits {low high n : Nat} (small : n ≤ high) :
    read low high (Nat.toDigits 10 n) = .ok n := by
  have sign := fun c => ne_sign_of_mem_toDigits (n := n) (c := c)
  have number := digits_toDigits .tooLarge n small []
  have some := Nat.toDigits_ne_nil (n := n) (b := 10)
  rw [List.append_nil] at number
  -- a digit comes first, so the reader takes no branch with a sign
  unfold read
  split
  next empty => exact absurd empty some
  next plus => exact absurd rfl (sign '+' (plus ▸ List.mem_cons_self)).1
  next minus => exact absurd rfl (sign '-' (minus ▸ List.mem_cons_self)).2
  next plus => exact absurd rfl (sign '+' (plus ▸ List.mem_cons_self)).1
  next minus => exact absurd rfl (sign '-' (minus ▸ List.mem_cons_self)).2
  next =>
    rw [number]
    rfl

/-- A text of digits behind a minus sign is read as a number below zero. -/
theorem read_minus_toDigits {low high n : Nat} (small : n ≤ low) (some : 0 < low) :
    read low high ('-' :: Nat.toDigits 10 n) = .ok (-n) := by
  have number := digits_toDigits .tooSmall n small []
  rw [List.append_nil] at number
  have inhabited := Nat.toDigits_ne_nil (n := n) (b := 10)
  generalize Nat.toDigits 10 n = text at number inhabited
  cases text with
  | nil => exact absurd rfl inhabited
  | cons c text =>
    show (if low = 0 then _ else _) = _
    rw [if_neg (Nat.ne_of_gt some), number]
    rfl

/-- A number of 32 bits is written with digits, and perhaps a minus sign. -/
theorem digit_or_minus_of_mem_toString {code : Int32} {c : Char} (among : c ∈ (toString code).toList) :
    c.isDigit = true ∨ c = '-' := by
  have digits {n : Nat} (among : c ∈ n.repr.toList) : c.isDigit = true := by
    rw [Nat.toList_repr] at among
    exact Nat.isDigit_of_mem_toDigits (by decide) (by decide) among
  rw [show toString code = code.toInt.repr from rfl, Int.repr_eq_if] at among
  split at among
  next => exact .inl (digits among)
  next =>
    rw [String.toList_append, List.mem_append] at among
    rcases among with minus | among
    · exact .inr (List.mem_singleton.mp minus)
    · exact .inl (digits among)

/-- **The text of a number of 32 bits reads as the number.** -/
theorem readInt32_toString (code : Int32) : readInt32 (toString code).toList = .ok code := by
  have bounds : -2147483648 ≤ code.toInt ∧ code.toInt ≤ 2147483647 :=
    ⟨code.le_toInt, Int.le_of_lt_add_one code.toInt_lt⟩
  have text : toString code = code.toInt.repr := rfl
  have number : read 2147483648 2147483647 (toString code).toList = .ok code.toInt := by
    rw [text, Int.repr_eq_if]
    split
    next natural =>
      rw [Nat.toList_repr, read_toDigits (by omega)]
      exact congrArg _ (Int.toNat_of_nonneg natural)
    next negative =>
      rw [String.toList_append, Nat.toList_repr]
      show read _ _ ('-' :: Nat.toDigits 10 _) = _
      rw [read_minus_toDigits (by omega) (by decide)]
      exact congrArg _ (by omega)
  rw [readInt32, number]
  exact congrArg _ code.ofInt_toInt

end Hostlink.Text.Integer
