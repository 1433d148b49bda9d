import Hostlink.Yaml.Cursor
import Hostlink.Yaml.Fault
import Hostlink.Yaml.Token

/-!
# Scalars

Plain and quoted scalars run over several lines: a single break between two lines is read as a
space, further breaks are kept. A block scalar keeps its lines, or folds those that start with no
gap, and its indentation is that of its first line unless its header says otherwise.
-/

namespace Hostlink.Yaml

/-- A scalar's text, the last characters first, and the place after it. -/
abbrev Scanned := Except Fault (List Char × Cursor)

/-! ## What stands between two words -/

/-- What stands between two words of a scalar: blanks on one line, or ends of lines. -/
structure Seam where
  /-- The blanks before the first break, the last one first. -/
  blanks : List Char := []
  /-- Whether there is a break, read or escaped. -/
  broken : Bool := false
  /-- The first break, unless it is escaped. -/
  first : Option Char := none
  /-- The further breaks, the last one first. -/
  more : List Char := []

namespace Seam

/-- Puts a seam after a text, which has its last character first: a single line feed becomes a
space, and a line feed before further breaks is dropped. -/
def joinTo (s : Seam) (text : List Char) : List Char :=
  if s.broken then
    match s.first with
    | some '\n' => if s.more.isEmpty then ' ' :: text else s.more ++ text
    | some c => s.more ++ c :: text
    | none => s.more ++ text
  else s.blanks ++ text

/-- Reads a seam. A tab before the column `limit` of a later line is no indentation. -/
def read (limit : Int) (s : Seam) (c : Cursor) : Except Fault (Seam × Cursor) :=
  match _h : c.rest with
  | [] => .ok (s, c)
  | x :: _ =>
    if isGap x then
      if s.broken then
        if x = '\t' ∧ c.column < limit then
          .error (.unexpected "tab character that violates indentation")
        else read limit s c.next
      else read limit { s with blanks := x :: s.blanks } c.next
    else if isBreak x then
      if s.broken then read limit { s with more := Cursor.breakText x :: s.more } c.newLine
      else read limit { s with broken := true, first := some (Cursor.breakText x) } c.newLine
    else .ok (s, c)
termination_by c.rest.length
decreasing_by
  · exact Cursor.length_next _h
  · exact Cursor.length_next _h
  · exact Cursor.length_newLine _h
  · exact Cursor.length_newLine _h

end Seam

/-! ## Plain scalars -/

/-- Whether a plain scalar may start with the characters from here on. -/
def startsPlain (flow : Bool) (c : Cursor) : Bool :=
  match c.here with
  | none => false
  | some '-' => !(c.peek 1).any isGap
  | some '?' | some ':' => !flow && !endsWord (c.peek 1)
  | some x => !endsWord (some x) && x ∉ ",[]\x7b\x7d#&*!|>'\"%@\u0060".toList

/-- Reads a word of a plain scalar: up to a blank, to a colon that ends a word, or, within brackets,
to a comma or a bracket. -/
def plainWord (flow : Bool) (text : List Char) (c : Cursor) : Scanned :=
  match _h : c.rest with
  | [] => .ok (text, c)
  | x :: _ =>
    if endsWord (some x) then .ok (text, c)
    else if flow && x = ':' && (c.peek 1).any (· ∈ ",?[]\x7b\x7d".toList) then .error (.unexpected "':'")
    else if (x = ':' && endsWord (c.peek 1)) || (flow && x ∈ ",[]\x7b\x7d".toList) then .ok (text, c)
    else plainWord flow (x :: text) c.next
termination_by c.rest.length
decreasing_by exact Cursor.length_next _h

/-- Reads the words of a plain scalar, at most `fuel` of them. In a block a line that is indented
less than `limit` ends the scalar. The result says whether the scalar ends after a break. -/
def plainWords (flow : Bool) (limit : Int) :
    Nat → Seam → List Char → Cursor → Except Fault (List Char × Cursor × Bool)
  | 0, s, text, c => .ok (text, c, s.broken)
  | fuel + 1, s, text, c => do
    if c.betweenDocuments || c.here = some '#' then return (text, c, s.broken)
    let (word, c) ← plainWord flow [] c
    let (s, text) := if word.isEmpty then (s, text) else ({}, word ++ s.joinTo text)
    if !(c.here.any fun x => isGap x || isBreak x) then return (text, c, s.broken)
    let (s, c) ← s.read limit c
    if !flow && c.column < limit then return (text, c, s.broken)
    plainWords flow limit fuel s text c

/-- Reads a plain scalar. -/
def readPlain (flow : Bool) (limit : Int) (c : Cursor) : Except Fault (Token × Cursor × Bool) := do
  let (text, c, broken) ← plainWords flow limit (c.rest.length + 1) {} [] c
  return (.scalar (String.ofList text.reverse) .plain, c, broken)

/-! ## Quoted scalars -/

/-- The characters with an escape of one letter. -/
def shortEscapes : List (Char × Char) := [
  ('0', '\x00'), ('a', '\x07'), ('b', '\x08'), ('t', '\t'), ('\t', '\t'), ('n', '\n'),
  ('v', '\x0b'), ('f', '\x0c'), ('r', '\r'), ('e', '\x1b'), (' ', ' '), ('"', '"'), ('/', '/'),
  ('\\', '\\'), ('N', '\u0085'), ('_', '\u00a0'), ('L', '\u2028'), ('P', '\u2029')]

/-- The escapes by number, and how many digits they have. -/
def longEscapes : List (Char × Nat) := [('x', 2), ('u', 4), ('U', 8)]

/-- The value of a hexadecimal digit. -/
def hexDigit? (c : Char) : Option Nat :=
  if '0' ≤ c ∧ c ≤ '9' then some (c.toNat - '0'.toNat)
  else if 'a' ≤ c ∧ c ≤ 'f' then some (c.toNat - 'a'.toNat + 10)
  else if 'A' ≤ c ∧ c ≤ 'F' then some (c.toNat - 'A'.toNat + 10)
  else none

/-- The number that hexadecimal digits write. -/
def hexValue? (digits : List Char) : Option Nat :=
  digits.foldlM (fun n d => (16 * n + ·) <$> hexDigit? d) 0

/-- Reads an escape: `letter` and, for an escape by number, the digits in `rest`. It gives the
character and how many digits were read. -/
def readEscape (letter : Char) (rest : List Char) : Except Fault (Char × Nat) :=
  match shortEscapes.lookup letter, longEscapes.lookup letter with
  | some x, _ => .ok (x, 0)
  | none, none => .error (.unexpected "escape character")
  | none, some size =>
    match if (rest.take size).length = size then hexValue? (rest.take size) else none with
    | none => .error (.missing "hexdecimal number")
    | some n => if n.isValidChar then .ok (Char.ofNat n, size) else .error (.unexpected "escape code")

/-- Where a word of a quoted scalar ends. -/
inductive WordEnd where
  | quote
  | blank
  /-- A break that a backslash takes away. -/
  | escapedBreak

/-- Reads a word of a quoted scalar, of at most `fuel` characters. -/
def quotedWord (quote : Char) :
    Nat → List Char → Cursor → Except Fault (List Char × Cursor × WordEnd)
  | 0, text, c => .ok (text, c, .blank)
  | fuel + 1, text, c =>
    match c.rest with
    | '\'' :: '\'' :: _ =>
      if quote = '\'' then quotedWord quote fuel ('\'' :: text) (c.skip 2)
      else quotedWord quote fuel ('\'' :: text) c.next
    | x :: rest =>
      if endsWord (some x) then .ok (text, c, .blank)
      else if x = quote then .ok (text, c.next, .quote)
      else if x = '\\' && quote = '"' then
        match rest with
        | letter :: digits =>
          if isBreak letter then .ok (text, c.next.newLine, .escapedBreak)
          else do
            let (y, size) ← readEscape letter digits
            quotedWord quote fuel (y :: text) (c.skip (2 + size))
        | [] => .error (.unexpected "escape character")
      else quotedWord quote fuel (x :: text) c.next
    | [] => .ok (text, c, .blank)

/-- Reads the words of a quoted scalar, at most `fuel` of them. -/
def quotedWords (quote : Char) : Nat → List Char → Cursor → Scanned
  | 0, _, _ => .error (.unexpected "end of stream")
  | fuel + 1, text, c => do
    if c.betweenDocuments then throw (.unexpected "document indicator")
    if c.rest.isEmpty then throw (.unexpected "end of stream")
    let (text, c, ending) ← quotedWord quote (fuel + 1) text c
    match ending with
    | .quote => return (text, c)
    | .blank | .escapedBreak =>
      let start : Seam := { broken := ending matches .escapedBreak }
      let (s, c) ← start.read 0 c
      quotedWords quote fuel (s.joinTo text) c

/-- Reads a quoted scalar, from its first quote on. -/
def readQuoted (quote : Char) (c : Cursor) : Except Fault (Token × Cursor) := do
  let (text, c) ← quotedWords quote (c.rest.length + 1) [] c.next
  return (.scalar (String.ofList text.reverse) .quoted, c)

/-! ## Block scalars -/

/-- What becomes of the breaks at the end of a block scalar. -/
inductive Chomping where
  | strip
  | clip
  | keep
  deriving DecidableEq

/-- Reads the sign that says what becomes of the last breaks. -/
def readChomping (c : Cursor) : Option Chomping × Cursor :=
  match c.here with
  | some '+' => (some .keep, c.next)
  | some '-' => (some .strip, c.next)
  | _ => (none, c)

/-- Reads the digit that says how far a block scalar is indented. -/
def readIncrement (c : Cursor) : Except Fault (Option Nat × Cursor) :=
  match c.here with
  | some '0' => .error (.unexpected "indentation indicator equal to 0")
  | some d => .ok (if d.isDigit then (some (d.toNat - '0'.toNat), c.next) else (none, c))
  | none => .ok (none, c)

/-- Reads the header of a block scalar: the two signs, in either order, and the rest of the line. -/
def readHeader (c : Cursor) : Except Fault (Chomping × Option Nat × Cursor) := do
  let (first, c) := readChomping c
  let (increment, c) ← readIncrement c
  let (second, c) := if first.isNone && increment.isSome then readChomping c else (none, c)
  match c.finishLine with
  | none => throw (.missing "comment or line break")
  | some c => return ((first.or second).getD .clip, increment, c)

/-- Reads indentation and empty lines, at most `fuel` of them. Without an indentation every leading
space counts to it, and the deepest one is given back. -/
def blockBreaks (indent : Option Nat) :
    Nat → Nat → List Char → Cursor → Except Fault (List Char × Nat × Cursor)
  | 0, deepest, breaks, c => .ok (breaks, deepest, c)
  | fuel + 1, deepest, breaks, c =>
    let spaces := (c.rest.takeWhile (· = ' ')).length
    let c := c.skip (match indent with
      | none => spaces
      | some n => min spaces (n - c.column))
    let deepest := max deepest c.column
    match c.here with
    | some x =>
      if x = '\t' && indent.all (c.column < ·) then
        .error (.unexpected "tab character where an indentation space is expected")
      else if isBreak x then
        blockBreaks indent fuel deepest (Cursor.breakText x :: breaks) c.newLine
      else .ok (breaks, deepest, c)
    | none => .ok (breaks, deepest, c)

/-- What was read of a block scalar. -/
structure Block where
  /-- The lines, the last character first. -/
  text : List Char := []
  /-- The break after the last line. -/
  last : List Char := []
  /-- The breaks of the empty lines after it, the last one first. -/
  empty : List Char := []
  /-- Whether the last line starts with a gap. -/
  leadingGap : Bool := false

/-- Reads the lines of a block scalar, at most `fuel` of them. -/
def blockLines (folded : Bool) (indent : Nat) : Nat → Block → Cursor → Except Fault (Block × Cursor)
  | 0, b, c => .ok (b, c)
  | fuel + 1, b, c => do
    if c.column ≠ indent || c.rest.isEmpty then return (b, c)
    let gap := c.here.any isGap
    let seam :=
      if folded && b.last = ['\n'] && !b.leadingGap && !gap then
        if b.empty.isEmpty then [' '] else b.empty
      else b.empty ++ b.last
    let (line, c) := c.takeWhile fun _ => true
    let last := c.here.toList.map Cursor.breakText
    let (empty, _, c) ← blockBreaks (some indent) (fuel + 1) 0 [] c.newLine
    let text := line.reverse ++ seam ++ b.text
    blockLines folded indent fuel { text, last, empty, leadingGap := gap } c

/-- Reads a block scalar, from its indicator on. `outer` is the indentation of the block around. -/
def readBlock (outer : Int) (c : Cursor) : Except Fault (Token × Cursor) := do
  let folded := c.here = some '>'
  let (chomping, increment, c) ← readHeader c.next
  let given := increment.map fun n => (max outer 0).toNat + n
  let (empty, deepest, c) ← blockBreaks given (c.rest.length + 1) 0 [] c
  let indent := given.getD (max (max deepest (outer + 1).toNat) 1)
  let (b, c) ← blockLines folded indent (c.rest.length + 1) { empty } c
  let tail := match chomping with
    | .strip => []
    | .clip => b.last
    | .keep => b.empty ++ b.last
  return (.scalar (String.ofList (tail ++ b.text).reverse) .block, c)

end Hostlink.Yaml
