import Hostlink.Toml.Text
import Hostlink.Value

/-!
# Numbers in TOML

Integers of 64 bits in four bases, and numbers with a point. Underscores may stand between digits.
A number that starts with a zero has no other digit before its point.
-/

namespace Hostlink.Toml

/-- The digits of a text of digits with single underscores between them. -/
def plainDigits? (base : Nat) : List Char → Option (List Char)
  | [] => none
  | [c] => (digit? base c).map fun _ => [c]
  | c :: '_' :: rest => do
    let _ ← digit? base c
    return c :: (← plainDigits? base rest)
  | c :: rest => do
    let _ ← digit? base c
    return c :: (← plainDigits? base rest)

/-- The digits before a point. -/
def wholeDigits? (cs : List Char) : Option (List Char) :=
  if cs.head? = some '0' && cs.length > 1 then none else plainDigits? 10 cs

/-- Whether a text has a minus sign, and the text after a sign. -/
def splitSign : List Char → Bool × List Char
  | '-' :: rest => (true, rest)
  | '+' :: rest => (false, rest)
  | cs => (false, cs)

/-- The bases that are written with a letter after a zero. -/
def bases : List (Char × Nat) := [('x', 16), ('o', 8), ('b', 2)]

/-- The integer that a text writes. -/
def integer? (cs : List Char) : Option Int := do
  let n : Int ← match cs with
    | '0' :: letter :: digits =>
      let base ← bases.lookup letter
      let n ← number? base (← plainDigits? base digits)
      pure (Int.ofNat n)
    | cs =>
      let (negative, digits) := splitSign cs
      let n ← number? 10 (← wholeDigits? digits)
      pure (if negative then -Int.ofNat n else Int.ofNat n)
  if -9223372036854775808 ≤ n ∧ n ≤ 9223372036854775807 then some n else none

/-- The exponent that a text writes. -/
def exponent? (cs : List Char) : Option Int := do
  let (negative, digits) := splitSign cs
  let n ← number? 10 (← plainDigits? 10 digits)
  return if negative then -Int.ofNat n else Int.ofNat n

/-- Whether the character stands before an exponent. -/
def isExponentMark (c : Char) : Bool := c = 'e' ∨ c = 'E'

/-- The number with a point that a text writes. A positive number beyond all others is none. -/
def decimal? (cs : List Char) : Option Decimal := do
  let (negative, cs) := splitSign cs
  match cs with
  | ['i', 'n', 'f'] => return .infinite negative
  | ['n', 'a', 'n'] => return .undefined
  | _ =>
    let (mantissa, mark) := cs.span (!isExponentMark ·)
    let exponent ← if mark.isEmpty then some 0 else exponent? mark.tail
    let (whole, point) := mantissa.span (· ≠ '.')
    if point.isEmpty && mark.isEmpty then none
    let whole ← wholeDigits? whole
    let fraction ← if point.isEmpty then some [] else plainDigits? 10 point.tail
    let digits ← number? 10 (whole ++ fraction)
    let d := Decimal.ofScientific negative digits (exponent - fraction.length)
    if d = .infinite false then none else return d

end Hostlink.Toml
