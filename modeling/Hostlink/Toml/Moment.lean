import Hostlink.Toml.Number

/-!
# Dates and times in TOML

A moment has a date, a time, or both, and with both it may say how far it is from universal time.
As a value it is a record of these three parts, as they are written.
-/

namespace Hostlink.Toml

/-- A moment, by the texts of its parts. -/
structure Moment where
  date : Option (List Char) := none
  time : Option (List Char) := none
  offset : Option (List Char) := none

namespace Moment

/-- The value of a moment. -/
def toValue (m : Moment) : Value :=
  let part : Option (List Char) → Value := .optional fun cs => .text (String.ofList cs)
  .record [("date", part m.date), ("time", part m.time), ("offset", part m.offset)]

/-- Whether digits write a number within bounds. -/
def within (low high : Nat) (digits : List Char) : Bool :=
  (number? 10 digits).any fun n => low ≤ n ∧ n ≤ high

/-- How many days a month has. -/
def daysIn (year month : Nat) : Nat :=
  if month = 2 then
    if year % 4 = 0 ∧ (year % 100 ≠ 0 ∨ year % 400 = 0) then 29 else 28
  else if month ∈ [4, 6, 9, 11] then 30 else 31

/-- Reads a date. -/
def readDate : Reader (List Char)
  | y₁ :: y₂ :: y₃ :: y₄ :: '-' :: m₁ :: m₂ :: '-' :: d₁ :: d₂ :: rest => do
    let year ← number? 10 [y₁, y₂, y₃, y₄]
    let month ← number? 10 [m₁, m₂]
    if within 1 12 [m₁, m₂] && within 1 (daysIn year month) [d₁, d₂] then
      some ([y₁, y₂, y₃, y₄, '-', m₁, m₂, '-', d₁, d₂], rest)
    else none
  | _ => none

/-- Reads the part of a time after a point. -/
def readFraction : Reader (List Char)
  | '.' :: rest =>
    let digits := rest.takeWhile Char.isDigit
    if digits.isEmpty then none else some ('.' :: digits, rest.drop digits.length)
  | rest => some ([], rest)

/-- Reads a time. A minute may have a sixty-first second. -/
def readTime : Reader (List Char)
  | h₁ :: h₂ :: ':' :: m₁ :: m₂ :: ':' :: s₁ :: s₂ :: rest => do
    if within 0 23 [h₁, h₂] && within 0 59 [m₁, m₂] && within 0 60 [s₁, s₂] then
      let (fraction, rest) ← readFraction rest
      some ([h₁, h₂, ':', m₁, m₂, ':', s₁, s₂] ++ fraction, rest)
    else none
  | _ => none

/-- Whether a text is a distance from universal time. -/
def isOffset : List Char → Bool
  | ['Z'] | ['z'] => true
  | [sign, h₁, h₂, ':', m₁, m₂] =>
    (sign = '+' ∨ sign = '-') && within 0 23 [h₁, h₂] && within 0 59 [m₁, m₂]
  | _ => false

/-- Reads the whole of a text as the time of a day, with an offset if there is one. -/
def atTime? (date : List Char) (cs : List Char) : Option Moment := do
  let (time, rest) ← readTime cs
  if rest.isEmpty then return { date := some date, time := some time }
  if isOffset rest then return { date := some date, time := some time, offset := some rest }
  none

/-- The moment that a text without blanks writes. -/
def ofWord? (cs : List Char) : Option Moment :=
  match readDate cs, readTime cs with
  | some (date, []), _ => some { date := some date }
  | some (date, mark :: rest), _ => if mark = 'T' ∨ mark = 't' then atTime? date rest else none
  | none, some (time, []) => some { time := some time }
  | none, _ => none

/-- Whether a moment is only a date. -/
def isDate (m : Moment) : Bool := m.date.isSome && m.time.isNone

end Moment

end Hostlink.Toml
