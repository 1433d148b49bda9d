import Hostlink.Bytes.Utf8
import Hostlink.Yaml.Token.Scalar

/-!
# Anchors, tags and directives

The names that a node can carry, and the lines before a document that say what its tags mean.
-/

namespace Hostlink.Yaml

/-! ## Anchors -/

/-- Whether a name of an anchor may end here. -/
def endsAnchor (c : Option Char) : Bool := endsWord c || c.any (· ∈ "?:,]\x7d%@\u0060".toList)

/-- Reads the name of an anchor, from the sign before it on. -/
def readAnchor (c : Cursor) : Except Fault (String × Cursor) :=
  let (name, c) := c.next.takeWhile isWordChar
  if name.isEmpty || !endsAnchor c.here then .error (.missing "alphabetic or numeric character")
  else .ok (String.ofList name, c)

/-! ## Tags -/

/-- Reads the handle of a tag: an exclamation mark, and a word with a second one if there is one. -/
def readHandle (c : Cursor) : Except Fault (List Char × Cursor) :=
  if c.here ≠ some '!' then .error (.missing "'!'")
  else
    let (word, c) := c.next.takeWhile isWordChar
    if c.here = some '!' then .ok ('!' :: word ++ ['!'], c.next) else .ok ('!' :: word, c)

/-- Whether a tag may hold the character; only one between angle brackets holds commas and square
brackets. -/
def isTagChar (verbatim : Bool) (c : Char) : Bool :=
  isWordChar c || c ∈ ";/?:@&=+$.%!~*'()".toList || (verbatim && c ∈ ",[]".toList)

/-- How many octets a character has that starts with this one. -/
def octetCount? (n : Nat) : Option Nat :=
  if n < 0x80 then some 1
  else if 0xC0 ≤ n ∧ n < 0xE0 then some 2
  else if 0xE0 ≤ n ∧ n < 0xF0 then some 3
  else if 0xF0 ≤ n ∧ n < 0xF8 then some 4
  else none

/-- Reads the text of a tag, at most `fuel` characters of it, as octets with the last one first.
An octet may be written by its number; `pending` counts those that a character still lacks. -/
def tagOctets (verbatim : Bool) :
    Nat → Nat → Bytes → Cursor → Except Fault (Bytes × Cursor)
  | 0, _, bytes, c => .ok (bytes, c)
  | fuel + 1, pending, bytes, c =>
    match c.rest with
    | '%' :: rest =>
      match if (rest.take 2).length = 2 then hexValue? (rest.take 2) else none with
      | none => .error (.missing "URI escaped octet")
      | some n =>
        let push (pending : Nat) := tagOctets verbatim fuel pending (.ofNat n :: bytes) (c.skip 3)
        if pending = 0 then
          match octetCount? n with
          | some size => push (size - 1)
          | none => .error (.unexpected "leading UTF-8 octet")
        else if 0x80 ≤ n ∧ n < 0xC0 then push (pending - 1)
        else .error (.unexpected "trailing UTF-8 octet")
    | x :: _ =>
      if pending ≠ 0 then .error (.missing "URI escaped octet")
      else if isTagChar verbatim x then
        tagOctets verbatim fuel 0 ((Utf8.encode (String.singleton x)).reverse ++ bytes) c.next
      else .ok (bytes, c)
    | [] => if pending ≠ 0 then .error (.missing "URI escaped octet") else .ok (bytes, c)

/-- Reads the text of a tag after what was already read of it, which counts to it. -/
def readTagText (verbatim : Bool) (start : List Char) (c : Cursor) :
    Except Fault (String × Cursor) := do
  let (bytes, c') ← tagOctets verbatim (c.rest.length + 1) 0 [] c
  if start.isEmpty && bytes.isEmpty then throw (.missing "tag URI")
  return (String.ofList start.tail ++ Utf8.decodeLossy bytes.reverse, c')

/-- Reads a tag. -/
def readTag (flow : Bool) (c : Cursor) : Except Fault (Token × Cursor) := do
  let (tag, c) ← show Except Fault (Token × Cursor) from
    if c.peek 1 = some '<' then do
      let (text, c) ← readTagText true [] (c.skip 2)
      if c.here ≠ some '>' then throw (.missing "'>'")
      return (.tag "" text, c.next)
    else do
      let (handle, c) ← readHandle c
      if handle.length > 1 && handle.getLast? = some '!' then
        let (text, c) ← readTagText false [] c
        return (.tag (String.ofList handle) text, c)
      else
        let (text, c) ← readTagText false handle c
        return (if text.isEmpty then .tag "" "!" else .tag "!" text, c)
  if endsWord c.here || (flow && c.here = some ',') then return (tag, c)
  else throw (.missing "whitespace or line break")

/-! ## Directives -/

/-- Reads a number of at most nine digits. -/
def readVersionNumber (c : Cursor) : Except Fault (Nat × Cursor) :=
  let (digits, c) := c.takeWhile Char.isDigit
  if digits.isEmpty then .error (.missing "version number")
  else if digits.length > 9 then .error (.unexpected "long version number")
  else .ok (digits.foldl (fun n d => 10 * n + (d.toNat - '0'.toNat)) 0, c)

/-- Reads the version of a text. -/
def readVersion (c : Cursor) : Except Fault (Token × Cursor) := do
  let (major, c) ← readVersionNumber c.skipGap
  if c.here ≠ some '.' then throw (.missing "digit or '.' character")
  let (minor, c) ← readVersionNumber c.next
  return (.version major minor, c)

/-- Reads the declaration of a handle. -/
def readHandleDeclaration (c : Cursor) : Except Fault (Token × Cursor) := do
  let (handle, c) ← readHandle c.skipGap
  if handle ≠ ['!'] && (handle.length = 1 || handle.getLast? ≠ some '!') then
    throw (.missing "'!'")
  if !c.here.any isGap then throw (.missing "whitespace")
  let (meaning, c) ← readTagText true [] c.skipGap
  if !endsWord c.here then throw (.missing "whitespace or line break")
  return (.handle (String.ofList handle) meaning, c)

/-- Reads a directive with its whole line. -/
def readDirective (c : Cursor) : Except Fault (Token × Cursor) := do
  let (name, c) := c.next.takeWhile isWordChar
  if name.isEmpty then throw (.missing "directive name")
  if !endsWord c.here then throw (.unexpected "non-alphabetical character")
  let (directive, c) ← match String.ofList name with
    | "YAML" => readVersion c
    | "TAG" => readHandleDeclaration c
    | _ => throw (.unexpected "directive name")
  match c.finishLine with
  | some c => return (directive, c)
  | none => throw (.missing "comment or line break")

end Hostlink.Yaml
