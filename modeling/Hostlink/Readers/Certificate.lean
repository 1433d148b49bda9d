import Hostlink.Bytes.Base64
import Hostlink.Bytes.Utf8

/-!
# Certificates to trust

A file of certificates is a text with blocks between `BEGIN` and `END` lines; whatever stands
outside of blocks is passed over, so a file without any block adds nothing. A block named
`CERTIFICATE` must have the outer form of a certificate in DER: a sequence of three parts, the last one
a bit string. What the parts say is not looked at.
-/

namespace Hostlink.Certificate

/-- A named block of a text. -/
structure Block where
  name : List Char
  content : Bytes

/-- The lines of a text, each without the blanks and line ends behind it. -/
def lines (text : List Char) : List (List Char) :=
  (text.splitOn '\n').map fun line =>
    (line.reverse.dropWhile fun c => c == '\r' || c == ' ').reverse

/-- The start of a line that begins a block. -/
def beginMark : List Char := "-----BEGIN ".toList

/-- The start of a line that ends a block. -/
def endMark (name : List Char) : List Char := "-----END ".toList ++ name ++ "-----".toList

/-- The name of the block that a line begins: what stands before the five dashes at its end. -/
def blockName? (line : List Char) : Option (List Char) :=
  let rest := line.drop beginMark.length
  let name := (rest.reverse.dropWhile (· == '-')).reverse
  if rest.length = name.length + 5 then some name else none

/-- The blocks of lines, the last one first, or nothing where a block is not well-formed. -/
def blocks (acc : List Block) (current : Option (List Char × List Char)) :
    List (List Char) → Option (List Block)
  | [] => if current.isSome then none else some acc
  | line :: rest =>
    if beginMark.isPrefixOf line then
      match blockName? line with
      | none => none
      | some name => blocks acc (some (name, [])) rest
    else
      match current with
      | none => blocks acc none rest
      | some (name, body) =>
        if (endMark name).isPrefixOf line then
          match Base64.decode (Utf8.encode (String.ofList body)) with
          | .error _ => none
          | .ok content => blocks (⟨name, content⟩ :: acc) none rest
        else blocks acc (some (name, body ++ line)) rest

/-! ## DER -/

/-- One element of DER: its tag, its content, and what follows it. -/
def element? : Bytes → Option (Nat × Bytes × Bytes)
  | tag :: first :: rest =>
    let take (length : Nat) (rest : Bytes) :=
      if length ≤ rest.length then some (tag.toNat, rest.take length, rest.drop length) else none
    if first.toNat < 128 then take first.toNat rest
    else
      let count := first.toNat - 128
      if count = 0 ∨ count > 4 ∨ rest.length < count then none
      else take (Bytes.value (rest.take count).reverse) (rest.drop count)
  | _ => none

/-- Whether octets have the form of a certificate. -/
def isCertificate (bytes : Bytes) : Bool :=
  match element? bytes with
  | some (0x30, content, []) =>
    match element? content with
    | some (0x30, _, rest) =>
      match element? rest with
      | some (0x30, _, rest) =>
        match element? rest with
        | some (0x03, _, []) => true
        | _ => false
      | _ => false
    | _ => false
  | _ => false

/-- Whether every certificate in a file has the form of one. -/
def isAcceptable (file : Bytes) : Bool :=
  match blocks [] none (lines (Utf8.decodeLossy file).toList) with
  | none => false
  | some found => found.all fun b => b.name != "CERTIFICATE".toList || isCertificate b.content

end Hostlink.Certificate
