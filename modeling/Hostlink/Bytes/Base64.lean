import Hostlink.Bytes

/-!
# Base64

The standard alphabet, read strictly: the padding must be present and canonical, and the bits that
the last symbol does not use must be zero. A fault names the first thing that is wrong, in the
order in which a reader meets it:

1. a text of length 1 modulo 4 can hold no whole number of octets, and is refused first;
2. the blocks of eight symbols before the last one admit the alphabet only;
3. the last block may end in padding, which must start at the third or fourth place of a group;
4. symbols and padding must fill whole groups;
5. the last symbol must carry no bits beyond the last octet.
-/

namespace Hostlink.Base64

/-- The symbol of a number below 64. -/
def symbol (n : Nat) : Char :=
  if n < 26 then Char.ofNat ('A'.toNat + n)
  else if n < 52 then Char.ofNat ('a'.toNat + (n - 26))
  else if n < 62 then Char.ofNat ('0'.toNat + (n - 52))
  else if n = 62 then '+'
  else '/'

/-- The number that an octet of the text stands for, if it belongs to the alphabet. -/
def digit? (b : UInt8) : Option Nat :=
  let n := b.toNat
  if 65 ≤ n ∧ n ≤ 90 then some (n - 65)
  else if 97 ≤ n ∧ n ≤ 122 then some (n - 71)
  else if 48 ≤ n ∧ n ≤ 57 then some (n + 4)
  else if n = 43 then some 62
  else if n = 47 then some 63
  else none

/-- The octet of the padding sign `=`. -/
def pad : UInt8 := 61

/-- The text of a byte string: three octets make four symbols. -/
def encode : Bytes → List Char
  | [] => []
  | [a] =>
    let n := a.toNat * 16
    [symbol (n / 64), symbol (n % 64), '=', '=']
  | [a, b] =>
    let n := (a.toNat * 256 + b.toNat) * 4
    [symbol (n / 4096), symbol (n / 64 % 64), symbol (n % 64), '=']
  | a :: b :: c :: rest =>
    let n := (a.toNat * 256 + b.toNat) * 256 + c.toNat
    symbol (n / 262144) :: symbol (n / 4096 % 64) :: symbol (n / 64 % 64) :: symbol (n % 64) ::
      encode rest

/-- What is wrong with a text. -/
inductive Fault where
  /-- An octet that has no place where it stands. -/
  | invalidByte (byte : UInt8) (offset : Nat)
  /-- The length leaves six bits over. -/
  | remainder
  /-- Symbols and padding do not fill whole groups of four. -/
  | padding
  /-- The last symbol carries bits that no octet takes. -/
  | lastSymbol (byte : UInt8) (offset : Nat)
  deriving DecidableEq, Repr

/-- The wording of a fault. -/
def Fault.message : Fault → String
  | .invalidByte byte offset => s!"Invalid byte {byte.toNat}, offset {offset}."
  | .remainder => "Encoded text cannot have a 6-bit remainder."
  | .padding => "Invalid padding"
  | .lastSymbol byte offset => s!"Invalid last symbol {byte.toNat}, offset {offset}."

/-- The numbers of octets that must all belong to the alphabet, from `offset` on. -/
def digits (offset : Nat) (text : Bytes) : Except Fault (List Nat) :=
  (text.zipIdx offset).mapM fun (b, i) =>
    match digit? b with
    | some n => .ok n
    | none => .error (.invalidByte b i)

/-- The symbols and the padding of the last block, which stands at `offset`. -/
structure Tail where
  /-- The numbers before the padding, last one first. -/
  digits : List Nat := []
  /-- The last symbol before the padding and its offset. -/
  last : Option (UInt8 × Nat) := none
  /-- Where the padding starts. -/
  padded : Option Nat := none
  /-- How many padding signs there are. -/
  pads : Nat := 0

/-- Takes one octet of the last block; `index` counts from the block's start. -/
def Tail.push (offset : Nat) (t : Tail) (b : UInt8) (index : Nat) : Except Fault Tail :=
  let place := offset + index
  if b = pad then
    if index % 4 < 2 then .error (.invalidByte pad (t.padded.getD place))
    else .ok { t with padded := some (t.padded.getD place), pads := t.pads + 1 }
  else match t.padded with
    | some start => .error (.invalidByte pad start)
    | none =>
      match digit? b with
      | some n => .ok { t with digits := n :: t.digits, last := some (b, place) }
      | none => .error (.invalidByte b place)

/-- Reads the last block. -/
def tail (offset : Nat) (text : Bytes) : Except Fault Tail :=
  text.zipIdx.foldlM (fun t (b, i) => t.push offset b i) {}

/-- The octets of whole groups and of one shorter group, whose spare bits come second. -/
def unpack : (acc : Bytes) → List Nat → Bytes × Nat
  | acc, a :: b :: c :: d :: rest =>
    let n := ((a * 64 + b) * 64 + c) * 64 + d
    unpack (UInt8.ofNat n :: UInt8.ofNat (n / 256) :: UInt8.ofNat (n / 65536) :: acc) rest
  | acc, [a, b, c] =>
    let n := (a * 64 + b) * 64 + c
    ((UInt8.ofNat (n / 4) :: UInt8.ofNat (n / 1024) :: acc).reverse, n % 4)
  | acc, [a, b] =>
    let n := a * 64 + b
    ((UInt8.ofNat (n / 16) :: acc).reverse, n % 16)
  | acc, _ => (acc.reverse, 0)

/-- The byte string that a text stands for. -/
def decode (text : Bytes) : Except Fault Bytes :=
  let length := text.length
  let final := text.getLast?.getD pad
  if length % 4 = 1 then
    if final ≠ pad ∧ digit? final = none then .error (.invalidByte final (length - 1))
    else .error .remainder
  else do
    let cut := (length - 1) / 8 * 8
    let head ← digits 0 (text.take cut)
    let block ← tail cut (text.drop cut)
    if (block.digits.length + block.pads) % 4 ≠ 0 then throw .padding
    let (bytes, spare) := unpack [] (head ++ block.digits.reverse)
    if spare ≠ 0 then
      let (byte, offset) := block.last.getD (pad, 0)
      throw (.lastSymbol byte offset)
    return bytes

end Hostlink.Base64
