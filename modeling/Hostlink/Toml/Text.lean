/-!
# Texts and keys in TOML

What lies between the parts of a TOML text, and its strings and keys. A reader takes a part off the
front of a text, or nothing where the text does not start with that part.
-/

namespace Hostlink.Toml

/-- Takes a part off the front of a text. -/
abbrev Reader (α : Type) := List Char → Option (α × List Char)

/-! ## Between the parts -/

/-- Whether the character is a blank within a line. -/
def isBlank (c : Char) : Bool := c = ' ' ∨ c = '\t'

/-- Whether a comment or a string may hold the character. -/
def isVisible (c : Char) : Bool := c = '\t' ∨ (0x20 ≤ c.toNat ∧ c.toNat ≠ 0x7F)

/-- The text after the blanks at its front. -/
def skipBlanks (cs : List Char) : List Char := cs.dropWhile isBlank

/-- The text after the end of a line at its front. -/
def newLine? : List Char → Option (List Char)
  | '\n' :: rest | '\r' :: '\n' :: rest => some rest
  | _ => none

/-- The text after what may stand at the end of a line, blanks and a comment, and after that end. -/
def endLine? (cs : List Char) : Option (List Char) :=
  let cs := skipBlanks cs
  let cs := if cs.head? = some '#' then cs.dropWhile isVisible else cs
  if cs.isEmpty then some [] else newLine? cs

/-- The text after the blanks, comments and ends of lines at its front. A comment has to be ended by
a line. -/
def skipLines (inComment : Bool) : List Char → Option (List Char)
  | [] => if inComment then none else some []
  | '\n' :: rest | '\r' :: '\n' :: rest => skipLines false rest
  | c :: rest =>
    if inComment then if isVisible c then skipLines true rest else none
    else if c = '#' then skipLines true rest
    else if isBlank c then skipLines false rest
    else some (c :: rest)

/-! ## Strings -/

/-- The character that a letter after a backslash stands for. -/
def escape? : Char → Option Char
  | 'b' => some '\x08'
  | 't' => some '\t'
  | 'n' => some '\n'
  | 'f' => some '\x0c'
  | 'r' => some '\r'
  | '"' => some '"'
  | '\\' => some '\\'
  | _ => none

/-- The value of a digit, up to base sixteen. -/
def digit? (base : Nat) (c : Char) : Option Nat :=
  let value :=
    if c.isDigit then some (c.toNat - '0'.toNat)
    else if 'a' ≤ c ∧ c ≤ 'f' then some (c.toNat - 'a'.toNat + 10)
    else if 'A' ≤ c ∧ c ≤ 'F' then some (c.toNat - 'A'.toNat + 10)
    else none
  value.filter (· < base)

/-- The number that digits write. -/
def number? (base : Nat) (digits : List Char) : Option Nat :=
  digits.foldlM (fun n c => (base * n + ·) <$> digit? base c) 0

/-- The character with a number given by its digits. -/
def numbered? (digits : List Char) : Option Char := do
  let n ← number? 16 digits
  if n.isValidChar then some (Char.ofNat n) else none

/-- Reads an escape after its backslash. -/
def readEscape : Reader Char
  | 'u' :: a :: b :: c :: d :: rest => (numbered? [a, b, c, d]).map (·, rest)
  | 'U' :: a :: b :: c :: d :: e :: f :: g :: h :: rest =>
    (numbered? [a, b, c, d, e, f, g, h]).map (·, rest)
  | c :: rest => (escape? c).map (·, rest)
  | [] => none

theorem length_lt_of_readEscape {cs rest : List Char} {c : Char}
    (h : readEscape cs = some (c, rest)) : rest.length < cs.length := by
  unfold readEscape at h
  split at h <;> simp at h <;> obtain ⟨_, _, _, rfl⟩ := h <;> simp
  all_goals omega

/-- Reads a string of one line in double quotes, from after the first quote on. -/
def readBasic (acc : List Char) (cs : List Char) : Option (String × List Char) :=
  match cs with
  | [] => none
  | '"' :: rest => some (String.ofList acc.reverse, rest)
  | '\\' :: rest =>
    match _h : readEscape rest with
    | some (c, rest) => readBasic (c :: acc) rest
    | none => none
  | c :: rest => if isVisible c then readBasic (c :: acc) rest else none
termination_by cs.length
decreasing_by
  · have := length_lt_of_readEscape _h
    simp; omega
  · simp

/-- Reads a string of one line in single quotes, from after the first quote on. -/
def readLiteral : Reader String := fun cs =>
  match cs.span fun c => isVisible c && c ≠ '\'' with
  | (content, '\'' :: rest) => some (String.ofList content, rest)
  | _ => none

/-- Takes the quotes that close a string of several lines, of which three are at the front; up to
two more belong to the string. -/
def closeBlock (quote : Char) (acc : List Char) (rest : List Char) : String × List Char :=
  let more := ((rest.takeWhile (· = quote)).take 2)
  (String.ofList (more ++ acc).reverse, rest.drop more.length)

/-- Whether nothing but blanks comes before the end of the line. -/
def endsBlank (cs : List Char) : Bool := (newLine? (skipBlanks cs)).isSome

/-- Reads a string of several lines. With double quotes it has escapes, and a backslash at the end
of a line takes away the blanks and lines that follow; `trim` says that they are being taken away. -/
def readBlock (quote : Char) (trim : Bool) (acc : List Char) (cs : List Char) :
    Option (String × List Char) :=
  match cs with
  | [] => none
  | '\n' :: rest | '\r' :: '\n' :: rest =>
    readBlock quote trim (if trim then acc else '\n' :: acc) rest
  | a :: rest =>
    if a = quote && rest.take 2 = [quote, quote] then
      some (closeBlock quote acc (rest.drop 2))
    else if a = '\\' && quote = '"' then
      if endsBlank rest then readBlock quote true acc rest
      else
        match _h : readEscape rest with
        | some (c, rest) => readBlock quote false (c :: acc) rest
        | none => none
    else if trim && isBlank a then readBlock quote true acc rest
    else if isVisible a then readBlock quote false (a :: acc) rest
    else none
termination_by cs.length
decreasing_by
  all_goals try (have h1 := length_lt_of_readEscape _h)
  all_goals simp; try omega

/-- The text without the end of a line at its front. -/
def dropNewLine (cs : List Char) : List Char := (newLine? cs).getD cs

/-- Reads a string. -/
def readString : Reader String
  | '"' :: '"' :: '"' :: rest => readBlock '"' false [] (dropNewLine rest)
  | '\'' :: '\'' :: '\'' :: rest => readBlock '\'' false [] (dropNewLine rest)
  | '"' :: rest => readBasic [] rest
  | '\'' :: rest => readLiteral rest
  | _ => none

/-! ## Keys -/

/-- Whether a key without quotes may hold the character. -/
def isKeyChar (c : Char) : Bool := c.isAlphanum ∨ c = '_' ∨ c = '-'

/-- Reads a key without dots. -/
def readKey : Reader String
  | '"' :: rest => readBasic [] rest
  | '\'' :: rest => readLiteral rest
  | cs =>
    let name := cs.takeWhile isKeyChar
    if name.isEmpty then none else some (String.ofList name, cs.drop name.length)

/-- How many parts a key with dots has less than. -/
def keyLimit : Nat := 80

/-- Reads keys between dots, at most `fuel` of them. -/
def readKeys : Nat → Reader (List String)
  | 0, _ => none
  | fuel + 1, cs => do
    let (name, rest) ← readKey (skipBlanks cs)
    match skipBlanks rest with
    | '.' :: rest =>
      let (names, rest) ← readKeys fuel rest
      return (name :: names, rest)
    | rest => return ([name], rest)

/-- Reads a key with dots and the blanks around it. -/
def readPath : Reader (List String) := readKeys (keyLimit - 1)

end Hostlink.Toml
