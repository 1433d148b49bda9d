/-!
# Numbers with a point

A number with a point is the binary floating-point number of 64 bits nearest to what was written
(`nearest`, ties to the even mantissa), known here by the shortest decimal digits that lead back to
it (`shortest`; of two candidates the nearer, of two equally near the even one). All arithmetic is
exact, on natural numbers.

Two written forms are in use: `positional` writes every place, `scientific` turns to powers of ten
for very large and very small magnitudes.
-/

namespace Hostlink

/-- A number with a point: `digits * 10 ^ exponent` by its shortest digits, or one of the values
that no digits reach. -/
inductive Decimal where
  | finite (negative : Bool) (digits : Nat) (exponent : Int)
  | infinite (negative : Bool)
  | undefined
  deriving DecidableEq, Repr, Inhabited

namespace Decimal

/-- A positive fraction of natural numbers. -/
structure Fraction where
  num : Nat
  den : Nat

namespace Fraction

/-- A fraction times a power of `base`. -/
def scale (base : Nat) (f : Fraction) (exponent : Int) : Fraction :=
  ⟨f.num * Nat.pow base exponent.toNat, f.den * Nat.pow base (-exponent).toNat⟩

/-- Whether one fraction is at most another. -/
def le (f g : Fraction) : Bool := f.num * g.den ≤ g.num * f.den

/-- Whether one fraction is less than another. -/
def lt (f g : Fraction) : Bool := f.num * g.den < g.num * f.den

/-- The nearest natural number, a half going to the even one. -/
def round (f : Fraction) : Nat :=
  let whole := f.num / f.den
  let rest := 2 * (f.num % f.den)
  if rest > f.den ∨ (rest = f.den ∧ whole % 2 = 1) then whole + 1 else whole

end Fraction

/-- A binary floating-point magnitude `mantissa * 2 ^ exponent`. -/
structure Binary where
  mantissa : Nat
  exponent : Int

/-- The least exponent of a magnitude of 64 bits. -/
def leastExponent : Int := -1074

/-- The least mantissa of a magnitude that has all its bits. -/
def leastMantissa : Nat := 4503599627370496

/-- The magnitude nearest to a positive fraction, unless it lies beyond all of them. -/
def nearest (f : Fraction) : Option Binary :=
  let guess := Int.ofNat f.num.log2 - Int.ofNat f.den.log2 - 53
  let scaled := f.scale 2 (-guess)
  let exponent := if scaled.num / scaled.den < 2 * leastMantissa then guess else guess + 1
  let exponent := max exponent leastExponent
  let mantissa := (f.scale 2 (-exponent)).round
  let b : Binary :=
    if mantissa = 2 * leastMantissa then ⟨leastMantissa, exponent + 1⟩ else ⟨mantissa, exponent⟩
  if b.exponent > 971 then none else some b

/-- The power of ten at which a positive fraction's first digit stands. -/
def magnitude (f : Fraction) : Int :=
  if f.den ≤ f.num then Int.ofNat (Nat.toDigits 10 (f.num / f.den)).length - 1
  else
    let places := ((List.range 400).find? fun j => f.den ≤ f.num * Nat.pow 10 (j + 1)).getD 400
    Int.negSucc places

/-- The fewest digits that lead back to a magnitude, as digits and a power of ten. -/
def shortest (b : Binary) : Nat × Int :=
  let value := (Fraction.mk b.mantissa 1).scale 2 b.exponent
  let quarter (n : Nat) := (Fraction.mk n 1).scale 2 (b.exponent - 2)
  let below := if b.mantissa = leastMantissa ∧ b.exponent > leastExponent then 1 else 2
  let low := quarter (4 * b.mantissa - below)
  let high := quarter (4 * b.mantissa + 2)
  let within (f : Fraction) :=
    if b.mantissa % 2 = 0 then low.le f && f.le high else low.lt f && f.lt high
  let first := magnitude value
  let attempt (count : Nat) : Option (Nat × Int) :=
    let place := first + 1 - Int.ofNat count
    let scaled := value.scale 10 (-place)
    let whole := scaled.num / scaled.den
    let onGrid (n : Nat) := within ((Fraction.mk n 1).scale 10 place)
    match onGrid whole, onGrid (whole + 1) with
    | true, true => some (scaled.round, place)
    | true, false => some (whole, place)
    | false, true => some (whole + 1, place)
    | false, false => none
  ((List.range 17).findSome? fun i => attempt (i + 1)).getD (b.mantissa, 0)

/-- Digits without zeros at their end. -/
def stripZeros : (fuel : Nat) → Nat → Int → Nat × Int
  | 0, digits, exponent => (digits, exponent)
  | fuel + 1, digits, exponent =>
    if digits ≠ 0 ∧ digits % 10 = 0 then stripZeros fuel (digits / 10) (exponent + 1)
    else (digits, exponent)

/-- The number written as `digits * 10 ^ exponent`. -/
def ofScientific (negative : Bool) (digits : Nat) (exponent : Int) : Decimal :=
  let size := Int.ofNat (Nat.toDigits 10 digits).length + exponent
  if digits = 0 ∨ size < -400 then .finite negative 0 0
  else if size > 400 then .infinite negative
  else
    match nearest ((Fraction.mk digits 1).scale 10 exponent) with
    | none => .infinite negative
    | some b =>
      if b.mantissa = 0 then .finite negative 0 0
      else
        let (digits, exponent) := shortest b
        let (digits, exponent) := stripZeros 20 digits exponent
        .finite negative digits exponent

/-- The sign as it is written. -/
def sign (negative : Bool) : String := if negative then "-" else ""

/-- Digits with a point `exponent` places from their end, every place written. -/
def places (digits : Nat) (exponent : Int) : String :=
  let ds := Nat.toDigits 10 digits
  if digits = 0 then "0.0"
  else if 0 ≤ exponent then String.ofList (ds ++ List.replicate exponent.toNat '0') ++ ".0"
  else
    let after := (-exponent).toNat
    if after < ds.length then
      String.ofList (ds.take (ds.length - after) ++ '.' :: ds.drop (ds.length - after))
    else "0." ++ String.ofList (List.replicate (after - ds.length) '0' ++ ds)

/-- Every place written, whatever the magnitude. -/
def positional : Decimal → String
  | .finite negative digits exponent => sign negative ++ places digits exponent
  | .infinite negative => sign negative ++ "inf"
  | .undefined => "NaN"

/-- Every place written from `0.00001` up to sixteen digits before the point, and one digit before
the point with a power of ten beyond. -/
def scientific : Decimal → String
  | .finite negative digits exponent =>
    let ds := Nat.toDigits 10 digits
    let point := Int.ofNat ds.length + exponent
    if digits = 0 ∨ (-5 < point ∧ point ≤ 16) then sign negative ++ places digits exponent
    else
      let fraction := ds.drop 1
      let body := ds.take 1 ++ (if fraction.isEmpty then [] else '.' :: fraction)
      sign negative ++ String.ofList body ++ s!"e{point - 1}"
  | d => d.positional

end Decimal

end Hostlink
