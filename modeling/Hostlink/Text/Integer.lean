/-!
# Integers in decimal

A text of ASCII digits after an optional sign, read from the left within bounds. The first
character that cannot stand where it stands decides the fault; digits that lead out of the bounds
are refused as soon as they do.
-/

namespace Hostlink.Text.Integer

/-- Why a text is no integer within the bounds. -/
inductive Fault where
  | empty
  | invalidDigit
  | tooLarge
  | tooSmall
  deriving DecidableEq, Repr

/-- The wording of a fault. -/
def Fault.message : Fault → String
  | .empty => "cannot parse integer from empty string"
  | .invalidDigit => "invalid digit found in string"
  | .tooLarge => "number too large to fit in target type"
  | .tooSmall => "number too small to fit in target type"

/-- Reads digits on top of `n`, never past `bound`. -/
def digits (bound : Nat) (past : Fault) (n : Nat) : List Char → Except Fault Nat
  | [] => .ok n
  | c :: rest =>
    if c.isDigit then
      let n := n * 10 + (c.toNat - '0'.toNat)
      if n ≤ bound then digits bound past n rest else .error past
    else .error .invalidDigit

/-- Reads an integer from `-low` to `high`; where `low` is zero a minus sign has no place. -/
def read (low high : Nat) (text : List Char) : Except Fault Int :=
  match text with
  | [] => .error .empty
  | ['+'] | ['-'] => .error .invalidDigit
  | '+' :: rest => (digits high .tooLarge 0 rest).map Int.ofNat
  | '-' :: rest =>
    if low = 0 then .error .invalidDigit
    else (digits low .tooSmall 0 rest).map fun n => -Int.ofNat n
  | text => (digits high .tooLarge 0 text).map Int.ofNat

/-- Reads a signed number of 32 bits. -/
def readInt32 (text : List Char) : Except Fault Int32 :=
  (read 2147483648 2147483647 text).map Int32.ofInt

/-- Reads an unsigned integer of `bits` bits. -/
def readUnsigned (bits : Nat) (text : List Char) : Except Fault Nat :=
  (read 0 (Nat.pow 2 bits - 1) text).map Int.toNat

end Hostlink.Text.Integer
