/-!
# Places in a YAML text

The classes of characters that YAML tells apart, and a place in a text: what is still to be read,
and where that stands. A line ends with a line feed, a carriage return, both together, or one of
three separators; each is read as a line feed but for the two that separate lines and paragraphs,
which are kept.
-/

namespace Hostlink.Yaml

/-- Whether a YAML text may hold the character. -/
def isAllowed (c : Char) : Bool :=
  let n := c.toNat
  c = '\t' ∨ c = '\n' ∨ c = '\r' ∨ (0x20 ≤ n ∧ n ≤ 0x7E) ∨ n = 0x85 ∨ (0xA0 ≤ n ∧ n ≤ 0xFFFD) ∨
    0x10000 ≤ n

/-- Whether the character ends a line. -/
def isBreak (c : Char) : Bool := c ∈ ['\n', '\r', '\u0085', '\u2028', '\u2029']

/-- Whether the character is a space or a tab. -/
def isGap (c : Char) : Bool := c = ' ' ∨ c = '\t'

/-- Whether a word may hold the character. -/
def isWordChar (c : Char) : Bool := c.isAlphanum ∨ c = '_' ∨ c = '-'

/-- Whether a line ends here. -/
def endsLine : Option Char → Bool
  | none => true
  | some c => isBreak c

/-- Whether a word ends here: at a gap or at the end of the line. -/
def endsWord : Option Char → Bool
  | none => true
  | some c => isGap c || isBreak c

/-- A place in a text. -/
structure Cursor where
  rest : List Char
  /-- How many characters came before. -/
  index : Nat := 0
  line : Nat := 0
  column : Nat := 0
  deriving Inhabited

namespace Cursor

/-- The character that is `n` characters ahead. -/
def peek (c : Cursor) (n : Nat) : Option Char := c.rest[n]?

/-- The character here. -/
def here (c : Cursor) : Option Char := c.rest.head?

/-- The place one character on, in the same line. -/
def next (c : Cursor) : Cursor :=
  { c with rest := c.rest.tail, index := c.index + 1, column := c.column + 1 }

/-- The place after so many characters of the same line. -/
def skip (c : Cursor) (n : Nat) : Cursor :=
  { c with rest := c.rest.drop n, index := c.index + n, column := c.column + n }

/-- The place after the end of this line. -/
def newLine (c : Cursor) : Cursor :=
  match c.rest with
  | '\r' :: '\n' :: rest => { rest, index := c.index + 2, line := c.line + 1 }
  | _ :: rest => { rest, index := c.index + 1, line := c.line + 1 }
  | [] => c

/-- What a character that ends a line is read as. -/
def breakText (c : Char) : Char := if c = '\u2028' ∨ c = '\u2029' then c else '\n'

/-- The characters of this line from here on that satisfy `p`, and the place after them. -/
def takeWhile (c : Cursor) (p : Char → Bool) : List Char × Cursor :=
  let taken := c.rest.takeWhile fun x => p x && !isBreak x
  (taken, c.skip taken.length)

/-- The place after the gap that starts here. -/
def skipGap (c : Cursor) : Cursor := (c.takeWhile isGap).2

/-- The end of this line. -/
def skipLine (c : Cursor) : Cursor := (c.takeWhile fun _ => true).2

/-- The place after a gap and a comment, which have to reach to the end of the line, and after that
end. -/
def finishLine (c : Cursor) : Option Cursor :=
  let c := c.skipGap
  let c := if c.here = some '#' then c.skipLine else c
  if endsLine c.here then some c.newLine else none

/-- Whether the line starts here with a mark between documents: three times `x`, as a word. -/
def atDocumentMark (c : Cursor) (x : Char) : Bool :=
  c.column = 0 && c.rest.take 3 = [x, x, x] && endsWord (c.peek 3)

/-- Whether the line starts here with either mark between documents. -/
def betweenDocuments (c : Cursor) : Bool := c.atDocumentMark '-' || c.atDocumentMark '.'

theorem length_next {c : Cursor} {x : Char} {xs : List Char} (h : c.rest = x :: xs) :
    c.next.rest.length < c.rest.length := by
  simp [next, h]

theorem length_newLine {c : Cursor} {x : Char} {xs : List Char} (h : c.rest = x :: xs) :
    c.newLine.rest.length < c.rest.length := by
  unfold newLine
  split
  · next h' => rw [h']; simp only [List.length_cons]; omega
  · next h' => rw [h']; simp only [List.length_cons]; omega
  · next h' => simp [h'] at h

end Cursor

end Hostlink.Yaml
