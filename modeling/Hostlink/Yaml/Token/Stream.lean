import Hostlink.Yaml.Token.Property

/-!
# The tokens of a text

Tokens are read one after another. In a block the column of a token opens and closes blocks. A
scalar, an alias or a flow collection may turn out to be a key when a colon follows it on the same
line and close by: then the token that marks a key is put in front of it, and with it the start of
a block where the key is the first one at its column.
-/

namespace Hostlink.Yaml

/-- A token that may turn out to start a key. -/
structure PendingKey where
  /-- How many tokens came before. -/
  position : Nat
  /-- Whether nothing but a key can stand there. -/
  required : Bool
  index : Nat
  line : Nat
  column : Nat

/-- What has been read of a text. -/
structure Scan where
  cursor : Cursor
  tokens : Array Token := #[]
  /-- The column of the innermost block; it is less than zero outside of any. -/
  indent : Int := -1
  /-- The columns of the blocks around it, the innermost first. -/
  outer : List Int := []
  /-- What may be a key, of the innermost flow collection or else of the block. -/
  pending : Option PendingKey := none
  /-- The same for what is around it: one for each flow collection that is open. -/
  enclosing : List (Option PendingKey) := []
  /-- Whether a key may start here. -/
  keyAllowed : Bool := true
  finished : Bool := false

namespace Scan

/-- Whether a flow collection is open. -/
def inFlow (s : Scan) : Bool := !s.enclosing.isEmpty

/-- Adds a token. -/
def push (s : Scan) (t : Token) : Scan := { s with tokens := s.tokens.push t }

/-- Moves on to `c`. -/
def moveTo (s : Scan) (c : Cursor) : Scan := { s with cursor := c }

/-! ## Blocks -/

/-- Opens a block at a column to the right of the innermost one; `position` is where its token goes. -/
def openBlock (s : Scan) (column position : Nat) (t : Token) : Scan :=
  if !s.inFlow && s.indent < column then
    { s with
      indent := column, outer := s.indent :: s.outer,
      tokens := s.tokens.insertIdxIfInBounds position t }
  else s

/-- Closes the blocks to the right of a column. -/
def closeBlocks (column : Int) : List Int → Scan → Scan
  | [], s => s
  | around :: outer, s =>
    if s.indent > column then
      closeBlocks column outer { s.push .blockEnd with indent := around, outer }
    else s

/-- Closes the blocks to the right of a column, unless a flow collection is open. -/
def unroll (s : Scan) (column : Int) : Scan :=
  if s.inFlow then s else closeBlocks column s.outer s

/-! ## Keys -/

/-- Gives up what was required to be a key. -/
def refuseRequired : Option PendingKey → Except Fault Unit
  | some k => if k.required then .error (.missing "':'") else .ok ()
  | none => .ok ()

/-- Takes back that what came before may be a key. -/
def dropKey (s : Scan) : Except Fault Scan := do
  refuseRequired s.pending
  return { s with pending := none }

/-- Notes that what comes here may be a key. -/
def markKey (s : Scan) : Except Fault Scan := do
  if !s.keyAllowed then return s
  let s ← s.dropKey
  let c := s.cursor
  let required := !s.inFlow && s.indent = c.column
  let key := ⟨s.tokens.size, required, c.index, c.line, c.column⟩
  return { s with pending := some key }

/-- How long a key can be. -/
def keyLimit : Nat := 1024

/-- Whether a key that starts there cannot be followed by a colon here. -/
def isStale (c : Cursor) (k : PendingKey) : Bool :=
  k.line < c.line || k.index + keyLimit < c.index

/-- Drops a key that is too far back. -/
def dropStale (c : Cursor) (key : Option PendingKey) : Except Fault (Option PendingKey) :=
  if key.any (isStale c) then do
    refuseRequired key
    return none
  else .ok key

/-- Drops the keys that are too far back. -/
def dropStaleKeys (s : Scan) : Except Fault Scan := do
  let pending ← dropStale s.cursor s.pending
  let enclosing ← s.enclosing.mapM (dropStale s.cursor)
  return { s with pending, enclosing }

/-! ## What stands between tokens -/

/-- Skips blanks, comments and ends of lines, at most `fuel` lines of them. Where a key may start in
a block a tab is no blank. -/
def skipBlanks : Nat → Scan → Scan
  | 0, s => s
  | fuel + 1, s =>
    let c := s.cursor
    let c := if c.column = 0 && c.here = some '\ufeff' then c.next else c
    let tabs := s.inFlow || !s.keyAllowed
    let (_, c) := c.takeWhile fun x => x = ' ' || (tabs && x = '\t')
    let c := if c.here = some '#' then c.skipLine else c
    if c.here.any isBreak then
      skipBlanks fuel { s with cursor := c.newLine, keyAllowed := s.keyAllowed || !s.inFlow }
    else s.moveTo c

/-! ## Tokens -/

/-- Adds a token of one character. -/
def single (s : Scan) (t : Token) : Scan := (s.push t).moveTo s.cursor.next

/-- Reads the end of the text. -/
def finish (s : Scan) : Except Fault Scan := do
  let s ← (s.unroll (-1)).dropKey
  return { s with finished := true }

/-- Reads a directive. -/
def directive (s : Scan) : Except Fault Scan := do
  let s ← (s.unroll (-1)).dropKey
  let (t, c) ← readDirective s.cursor
  return { (s.push t).moveTo c with keyAllowed := false }

/-- Reads a mark between documents. -/
def documentMark (s : Scan) (t : Token) : Except Fault Scan := do
  let s ← (s.unroll (-1)).dropKey
  return { (s.push t).moveTo (s.cursor.skip 3) with keyAllowed := false }

/-- Reads the opening bracket of a flow collection. -/
def openFlow (s : Scan) (t : Token) : Except Fault Scan := do
  let s ← s.markKey
  return { s.single t with
    pending := none, enclosing := s.pending :: s.enclosing, keyAllowed := true }

/-- Reads the closing bracket of a flow collection. -/
def closeFlow (s : Scan) (t : Token) : Except Fault Scan := do
  let s ← s.dropKey
  let s := { s.single t with keyAllowed := false }
  match s.enclosing with
  | pending :: enclosing => return { s with pending, enclosing }
  | [] => return s

/-- Reads the comma between the entries of a flow collection. -/
def flowEntry (s : Scan) : Except Fault Scan := do
  let s ← s.dropKey
  return { s.single .flowEntry with keyAllowed := true }

/-- Opens a block here for an entry, or for a key or value that is marked as such. -/
def enterBlock (s : Scan) (what : String) (t : Token) : Except Fault Scan := do
  if s.inFlow then return s
  if !s.keyAllowed then throw (.misplaced what)
  return s.openBlock s.cursor.column s.tokens.size t

/-- Reads the dash before an entry of a block sequence. -/
def blockEntry (s : Scan) : Except Fault Scan := do
  let s ← s.enterBlock "block sequence entries" .blockSequenceStart
  let s ← s.dropKey
  return { s.single .blockEntry with keyAllowed := true }

/-- Reads the question mark before a key. -/
def key (s : Scan) : Except Fault Scan := do
  let s ← s.enterBlock "mapping keys" .blockMappingStart
  let s ← s.dropKey
  return { s.single .key with keyAllowed := !s.inFlow }

/-- Reads the colon before a value. -/
def value (s : Scan) : Except Fault Scan := do
  match s.pending with
  | some k =>
    let s := { s with tokens := s.tokens.insertIdxIfInBounds k.position .key }
    let s := s.openBlock k.column k.position .blockMappingStart
    return { s.single .value with pending := none, keyAllowed := false }
  | none =>
    let s ← s.enterBlock "mapping values" .blockMappingStart
    return { s.single .value with keyAllowed := !s.inFlow }

/-- Reads the name of an anchor or alias. -/
def name (s : Scan) (token : String → Token) : Except Fault Scan := do
  let s ← s.markKey
  let (name, c) ← readAnchor s.cursor
  return { (s.push (token name)).moveTo c with keyAllowed := false }

/-- Reads a tag. -/
def tag (s : Scan) : Except Fault Scan := do
  let s ← s.markKey
  let (t, c) ← readTag s.inFlow s.cursor
  return { (s.push t).moveTo c with keyAllowed := false }

/-- Reads a block scalar. -/
def block (s : Scan) : Except Fault Scan := do
  let s ← s.dropKey
  let (t, c) ← readBlock s.indent s.cursor
  return { (s.push t).moveTo c with keyAllowed := true }

/-- Reads a quoted scalar. -/
def quoted (s : Scan) (quote : Char) : Except Fault Scan := do
  let s ← s.markKey
  let (t, c) ← readQuoted quote s.cursor
  return { (s.push t).moveTo c with keyAllowed := false }

/-- Reads a plain scalar. -/
def plain (s : Scan) : Except Fault Scan := do
  let s ← s.markKey
  let (t, c, broken) ← readPlain s.inFlow (s.indent + 1) s.cursor
  return { (s.push t).moveTo c with keyAllowed := broken }

/-- Reads the next token of a text that has at most `lines` lines. -/
def step (lines : Nat) (s : Scan) : Except Fault Scan := do
  let s := s.skipBlanks lines
  let s ← s.dropStaleKeys
  let s := s.unroll s.cursor.column
  let c := s.cursor
  let wordEnds := endsWord (c.peek 1)
  if c.column = 0 && c.here = some '%' then s.directive
  else if c.atDocumentMark '-' then s.documentMark .documentStart
  else if c.atDocumentMark '.' then s.documentMark .documentEnd
  else
    match c.here with
    | none => s.finish
    | some '[' => s.openFlow .flowSequenceStart
    | some '{' => s.openFlow .flowMappingStart
    | some ']' => s.closeFlow .flowSequenceEnd
    | some '}' => s.closeFlow .flowMappingEnd
    | some ',' => s.flowEntry
    | some '*' => s.name .alias
    | some '&' => s.name .anchor
    | some '!' => s.tag
    | some '\'' => s.quoted '\''
    | some '"' => s.quoted '"'
    | some x =>
      if x = '-' && wordEnds then s.blockEntry
      else if x = '?' && (s.inFlow || wordEnds) then s.key
      else if x = ':' && (s.inFlow || wordEnds) then s.value
      else if (x = '|' || x = '>') && !s.inFlow then s.block
      else if startsPlain s.inFlow c then s.plain
      else throw .strayCharacter

/-- Reads tokens until the text ends, at most `fuel` of them. -/
def run (lines : Nat) : Nat → Scan → Except Fault Scan
  | 0, s => .ok s
  | fuel + 1, s => if s.finished then .ok s else do run lines fuel (← s.step lines)

end Scan

/-- The tokens of a text, which may start with a mark of its encoding. -/
def tokens (text : String) : Except Fault (List Token) := do
  let cs := text.toList
  let cs := if cs.head? = some '\ufeff' then cs.tail else cs
  if !cs.all isAllowed then throw .forbiddenCharacter
  let s ← Scan.run (cs.length + 1) (cs.length + 2) { cursor := { rest := cs } }
  return s.tokens.toList

end Hostlink.Yaml
