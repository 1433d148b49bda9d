import Hostlink.Toml.Moment
import Hostlink.Toml.Table

/-!
# Documents in TOML

The values of TOML, and the lines of a text with the record that they build.
-/

namespace Hostlink.Toml

/-! ## Values -/

/-- Whether a value without quotes may hold the character. -/
def isWordChar (c : Char) : Bool := c.isAlphanum || c ∈ ['+', '-', '.', '_', ':']

/-- Reads a value without quotes. A date may be followed by a time after one space. -/
def readWord : Reader Value := fun cs =>
  let word := cs.takeWhile isWordChar
  let rest := cs.drop word.length
  match String.ofList word, Moment.ofWord? word with
  | "true", _ => some (.bool true, rest)
  | "false", _ => some (.bool false, rest)
  | _, some m =>
    let time := rest.tail.takeWhile isWordChar
    let joined := if m.isDate && rest.head? = some ' ' then Moment.atTime? word time else none
    match joined with
    | some m => some (m.toValue, rest.tail.drop time.length)
    | none => some (m.toValue, rest)
  | _, none =>
    match integer? word, decimal? word with
    | some n, _ => some (.int n, rest)
    | none, some d => some (.decimal d, rest)
    | none, none => none

/-- Reads the items of an array after its bracket, at most `fuel` of them. -/
def readItems (read : Reader Value) : Nat → List Value → Reader (List Value)
  | 0, _, _ => none
  | fuel + 1, acc, cs => do
    match ← skipLines false cs with
    | ']' :: rest => return (acc.reverse, rest)
    | cs =>
      let (v, rest) ← read cs
      match ← skipLines false rest with
      | ',' :: rest => readItems read fuel (v :: acc) rest
      | ']' :: rest => return ((v :: acc).reverse, rest)
      | _ => none

/-- Reads a pair: a key, an equals sign and a value. -/
def readPair (read : Reader Value) : Reader (Entries.Key × Value) := fun cs => do
  let (path, rest) ← readPath cs
  match rest with
  | '=' :: rest =>
    let (v, rest) ← read (skipBlanks rest)
    return (((path.dropLast, path.getLast?.getD ""), v), rest)
  | _ => none

/-- Reads the pairs of a table between braces, at most `fuel` of them. -/
def readPairs (read : Reader Value) :
    Nat → List (Entries.Key × Value) → Reader (List (Entries.Key × Value))
  | 0, _, _ => none
  | fuel + 1, acc, cs => do
    let (pair, rest) ← readPair read cs
    match skipBlanks rest with
    | ',' :: rest => readPairs read fuel (pair :: acc) rest
    | '\x7d' :: rest => return ((pair :: acc).reverse, rest)
    | _ => none

/-- Reads a table between braces, after the first one. -/
def readInline (read : Reader Value) : Reader Value := fun cs => do
  match skipBlanks cs with
  | '\x7d' :: rest => return (.record [], rest)
  | cs =>
    let (pairs, rest) ← readPairs read (cs.length + 1) [] cs
    return (.record (entryValues (← Entries.fill pairs [])), rest)

/-- Reads a value in which arrays and tables are nested no deeper than `depth`. -/
def readValue (depth : Nat) : Reader Value
  | '"' :: rest => (readString ('"' :: rest)).map fun (s, rest) => (.text s, rest)
  | '\'' :: rest => (readString ('\'' :: rest)).map fun (s, rest) => (.text s, rest)
  | '[' :: rest =>
    match depth with
    | 0 => none
    | depth + 1 =>
      (readItems (readValue depth) (rest.length + 1) [] rest).map fun (vs, rest) => (.list vs, rest)
  | '\x7b' :: rest =>
    match depth with
    | 0 => none
    | depth + 1 => readInline (readValue depth) rest
  | cs => readWord cs

/-- How deep arrays and tables are nested at most. -/
def depthLimit : Nat := 79

/-! ## Lines -/

/-- A line that says something. -/
inductive Line where
  | pair (key : Entries.Key) (v : Value)
  | table (key : Entries.Key)
  | tableOfArray (key : Entries.Key)

/-- Reads a header after its opening brackets, up to its closing ones. -/
def readHeader (closing : List Char) : Reader Entries.Key := fun cs => do
  let (path, rest) ← readPath cs
  if closing.isPrefixOf rest then
    return ((path.dropLast, path.getLast?.getD ""), rest.drop closing.length)
  else none

/-- Reads a line that says something. -/
def readLine : Reader Line
  | '[' :: '[' :: rest => (readHeader [']', ']'] rest).map fun (k, rest) => (.tableOfArray k, rest)
  | '[' :: rest => (readHeader [']'] rest).map fun (k, rest) => (.table k, rest)
  | cs => (readPair (readValue depthLimit) cs).map fun ((k, v), rest) => (.pair k v, rest)

/-- Reads the lines of a text, at most `fuel` of them, the last one first. -/
def readLines : Nat → List Line → List Char → Option (List Line)
  | 0, _, _ => none
  | fuel + 1, acc, cs =>
    let cs := skipBlanks cs
    match endLine? cs with
    | some [] => some acc
    | some rest => readLines fuel acc rest
    | none => do
      let (line, rest) ← readLine cs
      match ← endLine? rest with
      | [] => return line :: acc
      | rest => readLines fuel (line :: acc) rest

/-- A header with the pairs below it. -/
abbrev Section := Line × List (Entries.Key × Value)

/-- The pairs before the first header, and the headers with theirs, from lines in reverse. -/
def sections (lines : List Line) : List (Entries.Key × Value) × List Section :=
  lines.foldl (fun (pairs, rest) line =>
    match line with
    | .pair key v => ((key, v) :: pairs, rest)
    | header => ([], (header, pairs) :: rest)) ([], [])

/-- Adds what stands under a header. -/
def addSection (es : Entries) : Section → Option Entries
  | (.table key, pairs) => es.openTable key pairs
  | (.tableOfArray key, pairs) => es.addTable key pairs
  | (.pair .., _) => none

/-- The record that a text writes. The text may start with a mark of its encoding. -/
def record? (text : String) : Option Value := do
  let cs := text.toList
  let cs := if cs.head? = some '\ufeff' then cs.tail else cs
  let lines ← readLines (cs.length + 1) [] cs
  let (pairs, rest) := sections lines
  let es ← rest.foldlM addSection (← Entries.fill pairs [])
  return .record (entryValues es)

end Hostlink.Toml
