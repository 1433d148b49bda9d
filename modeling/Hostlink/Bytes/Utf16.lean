import Hostlink.Bytes

/-!
# UTF-16, least significant octet first

A character of the first plane is one unit, any other is a pair of surrogates. Reading refuses a
surrogate outside a pair.
-/

namespace Hostlink.Utf16

/-- The units of a character. -/
def units (c : Char) : List Nat :=
  let n := c.toNat
  if n < 0x10000 then [n]
  else [0xD800 + (n - 0x10000) / 0x400, 0xDC00 + (n - 0x10000) % 0x400]

/-- The octets of a text. -/
def encode (s : String) : Bytes :=
  s.toList.flatMap fun c => (units c).flatMap (Bytes.littleEndian 2)

/-- The units of an octet string; an octet left over at the end is dropped. -/
def words : Bytes → List Nat
  | a :: b :: rest => (a.toNat + 256 * b.toNat) :: words rest
  | _ => []

/-- The characters of units, or nothing where a surrogate stands alone. -/
def characters : List Nat → Option (List Char)
  | [] => some []
  | u :: rest =>
    if u < 0xD800 ∨ 0xE000 ≤ u then (characters rest).map (Char.ofNat u :: ·)
    else match rest with
      | v :: rest =>
        if u < 0xDC00 ∧ 0xDC00 ≤ v ∧ v < 0xE000 then
          (characters rest).map (Char.ofNat (0x10000 + (u - 0xD800) * 0x400 + (v - 0xDC00)) :: ·)
        else none
      | [] => none

/-- What is wrong with octets that are no UTF-16 text. -/
inductive Fault where
  /-- The octets do not pair up. -/
  | oddLength
  /-- A surrogate stands alone. -/
  | loneSurrogate
  deriving DecidableEq, Repr

/-- The wording of a fault. -/
def Fault.message : Fault → String
  | .oddLength => "UTF-16 payload has an odd byte count"
  | .loneSurrogate => "invalid utf-16: lone surrogate found"

/-- The text of an octet string. -/
def decode (bytes : Bytes) : Except Fault String :=
  if bytes.length % 2 ≠ 0 then .error .oddLength
  else match characters (words bytes) with
    | some cs => .ok (String.ofList cs)
    | none => .error .loneSurrogate

end Hostlink.Utf16
