import Hostlink.Yaml.Fault
import Hostlink.Yaml.Token

/-!
# Events

The structure that the tokens of a text write: scalars, aliases, and the starts and ends of
collections and documents. A node that is only implied (the value of a key with nothing after it)
is an empty plain scalar. Tags are given in full.
-/

namespace Hostlink.Yaml

/-- A step through the structure of a text. -/
inductive Event where
  | documentStart
  | documentEnd
  | alias (name : String)
  | scalar (text : String) (style : Style) (tag anchor : Option String)
  | sequenceStart (anchor : Option String)
  | sequenceEnd
  | mappingStart (anchor : Option String)
  | mappingEnd
  deriving DecidableEq, Repr

namespace Event

/-- A scalar that is only implied. -/
def implied : Event := .scalar "" .plain none none

/-- What is expected next. -/
inductive Expectation where
  | streamStart
  | document
  | documentContent
  | documentEnd
  | blockNode
  | blockEntry
  | indentlessEntry
  | blockKey
  | blockValue
  | flowEntry (first : Bool)
  /-- The key, the value and the end of a mapping of one pair in a flow sequence. -/
  | pairKey
  | pairValue
  | pairEnd
  | flowKey (first : Bool)
  | flowValue
  | flowMissingValue
  | nothing
  deriving DecidableEq, Repr

/-- The reading of a text's structure. -/
structure Reading where
  rest : List Token
  expected : Expectation := .streamStart
  /-- What is expected after the nodes that are open, the innermost first. -/
  after : List Expectation := []
  /-- What handles stand for in this document. -/
  handles : List (String × String) := []
  /-- The events so far, the last one first. -/
  events : List Event := []

/-- One step of reading. -/
abbrev Step := Except Fault Reading

namespace Reading

/-- Adds an event and expects `e` next. -/
def emit (r : Reading) (event : Event) (e : Expectation) : Reading :=
  { r with events := event :: r.events, expected := e }

/-- Adds an event that ends a node. -/
def leave (r : Reading) (event : Event) : Reading :=
  match r.after with
  | e :: after => { r.emit event e with after }
  | [] => r.emit event .nothing

/-- Drops so many tokens. -/
def drop (r : Reading) (n : Nat) : Reading := { r with rest := r.rest.drop n }

/-! ## Nodes -/

/-- The properties of a node: its anchor and its tag, in either order. -/
def properties : List Token → Option String × Option (String × String) × List Token
  | .anchor a :: .tag h s :: rest => (some a, some (h, s), rest)
  | .tag h s :: .anchor a :: rest => (some a, some (h, s), rest)
  | .anchor a :: rest => (some a, none, rest)
  | .tag h s :: rest => (none, some (h, s), rest)
  | rest => (none, none, rest)

/-- The tag that a handle and a suffix stand for. -/
def fullTag (handles : List (String × String)) : String × String → Except Fault String
  | ("", suffix) => .ok suffix
  | (handle, suffix) =>
    match handles.lookup handle with
    | some meaning => .ok (meaning ++ suffix)
    | none => .error .undefinedTag

/-- Reads the start of a node. `block` says whether it can be a block, `indentless` whether it can
be a sequence that is not indented. -/
def node (block indentless : Bool) (r : Reading) : Step :=
  match r.rest with
  | .alias name :: rest => .ok (leave { r with rest } (.alias name))
  | tokens => do
    let (anchor, tag, rest) := properties tokens
    let tag ← tag.mapM (fullTag r.handles)
    let r := { r with rest }
    match rest, block, indentless with
    | .blockEntry :: _, _, true => return r.emit (.sequenceStart anchor) .indentlessEntry
    | .scalar text style :: rest, _, _ =>
      let tag := tag.filter (· ≠ "!")
      return leave { r with rest } (.scalar text style tag anchor)
    | .flowSequenceStart :: rest, _, _ =>
      return emit { r with rest } (.sequenceStart anchor) (.flowEntry true)
    | .flowMappingStart :: rest, _, _ =>
      return emit { r with rest } (.mappingStart anchor) (.flowKey true)
    | .blockSequenceStart :: rest, true, _ =>
      return emit { r with rest } (.sequenceStart anchor) .blockEntry
    | .blockMappingStart :: rest, true, _ =>
      return emit { r with rest } (.mappingStart anchor) .blockKey
    | _, _, _ =>
      if anchor.isSome || tag.isSome then return r.leave (.scalar "" .plain tag anchor)
      else throw (.missing "node content")

/-- Reads a node, or implies an empty one where one of `enders` follows; `e` comes after it. -/
def nodeOr (enders : List Token) (block indentless : Bool) (e : Expectation) (r : Reading) : Step :=
  match r.rest with
  | t :: _ =>
    if t ∈ enders then .ok (r.emit implied e)
    else node block indentless { r with after := e :: r.after }
  | [] => node block indentless { r with after := e :: r.after }

/-! ## Documents -/

/-- What handles stand for unless a directive says otherwise. -/
def standardHandles : List (String × String) := [("!", "!"), ("!!", "tag:yaml.org,2002:")]

/-- Reads the directives before a document. -/
def directives (versioned : Bool) (handles : List (String × String)) :
    List Token → Except Fault (List (String × String) × List Token)
  | .version major minor :: rest =>
    if versioned then .error (.duplicate "%YAML directive")
    else if major ≠ 1 ∨ (minor ≠ 1 ∧ minor ≠ 2) then .error .incompatible
    else directives true handles rest
  | .handle name meaning :: rest =>
    if (handles.lookup name).isSome then .error (.duplicate "%TAG directive")
    else directives versioned ((name, meaning) :: handles) rest
  | rest => .ok (handles, rest)

/-- Reads a document that its mark starts. -/
def markedDocument (r : Reading) : Step := do
  let (handles, rest) ← directives false [] r.rest
  match rest with
  | .documentStart :: rest =>
    let r := { r with rest, handles := handles ++ standardHandles, after := .documentEnd :: r.after }
    return r.emit .documentStart .documentContent
  | _ => throw (.missing "<document start>")

/-- Whether a token can only stand at the start of a document. -/
def startsDocument : Token → Bool
  | .version .. | .handle .. | .documentStart => true
  | _ => false

/-- Reads a document, which the first one of a text can be without a mark. -/
def document (first : Bool) (r : Reading) : Step :=
  let r := if first then r else { r with rest := r.rest.dropWhile (· = .documentEnd) }
  match r.rest with
  | [] => .ok { r with expected := .nothing }
  | t :: _ =>
    if first && !startsDocument t then
      .ok ({ r with handles := standardHandles, after := .documentEnd :: r.after }.emit
        .documentStart .blockNode)
    else r.markedDocument

/-! ## Collections -/

/-- Reads an entry of a block sequence, or its end. -/
def blockEntry (r : Reading) : Step :=
  match r.rest with
  | .blockEntry :: rest =>
    nodeOr [.blockEntry, .blockEnd] true false .blockEntry { r with rest }
  | .blockEnd :: rest => .ok (leave { r with rest } .sequenceEnd)
  | _ => .error (.missing "'-' indicator")

/-- Reads an entry of a sequence that is not indented, or notes its end. -/
def indentlessEntry (r : Reading) : Step :=
  match r.rest with
  | .blockEntry :: rest =>
    nodeOr [.blockEntry, .key, .value, .blockEnd] true false .indentlessEntry { r with rest }
  | _ => .ok (r.leave .sequenceEnd)

/-- Reads a key of a block mapping, or its end. -/
def blockKey (r : Reading) : Step :=
  match r.rest with
  | .key :: rest => nodeOr [.key, .value, .blockEnd] true true .blockValue { r with rest }
  | .blockEnd :: rest => .ok (leave { r with rest } .mappingEnd)
  | _ => .error (.missing "key")

/-- Reads a value of a block mapping. -/
def blockValue (r : Reading) : Step :=
  match r.rest with
  | .value :: rest => nodeOr [.key, .value, .blockEnd] true true .blockKey { r with rest }
  | _ => .ok (r.emit implied .blockKey)

/-- Reads the comma before an entry that is not the first. -/
def comma (first : Bool) (closing : Token) (expected : String) (r : Reading) : Step :=
  match r.rest, first with
  | _, true => .ok r
  | .flowEntry :: rest, false => .ok { r with rest }
  | t :: _, false => if t = closing then .ok r else .error (.missing expected)
  | [], false => .error (.missing expected)

/-- Reads an entry of a flow sequence, or its end. -/
def flowEntry (first : Bool) (r : Reading) : Step := do
  let r ← r.comma first .flowSequenceEnd "',' or ']'"
  match r.rest with
  | .flowSequenceEnd :: rest => return leave { r with rest } .sequenceEnd
  | .key :: rest => return emit { r with rest } (.mappingStart none) .pairKey
  | _ => node false false { r with after := .flowEntry false :: r.after }

/-- Reads the key of a pair in a flow sequence. One that is left out takes with it the token that
follows. -/
def pairKey (r : Reading) : Step :=
  match r.rest with
  | .value :: rest | .flowEntry :: rest | .flowSequenceEnd :: rest =>
    .ok (emit { r with rest } implied .pairValue)
  | _ => node false false { r with after := .pairValue :: r.after }

/-- Reads the value of a pair in a flow sequence. -/
def pairValue (r : Reading) : Step :=
  match r.rest with
  | .value :: rest => nodeOr [.flowEntry, .flowSequenceEnd] false false .pairEnd { r with rest }
  | _ => .ok (r.emit implied .pairEnd)

/-- Reads a key of a flow mapping, or its end. -/
def flowKey (first : Bool) (r : Reading) : Step := do
  let r ← r.comma first .flowMappingEnd "',' or '\x7d'"
  match r.rest with
  | .flowMappingEnd :: rest => return leave { r with rest } .mappingEnd
  | .key :: rest => nodeOr [.value, .flowEntry, .flowMappingEnd] false false .flowValue { r with rest }
  | _ => node false false { r with after := .flowMissingValue :: r.after }

/-- Reads a value of a flow mapping. -/
def flowValue (r : Reading) : Step :=
  match r.rest with
  | .value :: rest =>
    nodeOr [.flowEntry, .flowMappingEnd] false false (.flowKey false) { r with rest }
  | _ => .ok (r.emit implied (.flowKey false))

/-- One step, by what is expected. -/
def step (r : Reading) : Step :=
  match r.expected with
  | .streamStart => r.document true
  | .document => r.document false
  | .documentContent =>
    match r.rest with
    | [] => .ok (r.leave implied)
    | t :: _ =>
      if startsDocument t || t = .documentEnd then .ok (r.leave implied) else r.node true false
  | .documentEnd =>
    let rest := if r.rest.head? = some .documentEnd then r.rest.tail else r.rest
    .ok (emit { r with rest } .documentEnd .document)
  | .blockNode => r.node true false
  | .blockEntry => r.blockEntry
  | .indentlessEntry => r.indentlessEntry
  | .blockKey => r.blockKey
  | .blockValue => r.blockValue
  | .flowEntry first => r.flowEntry first
  | .pairKey => r.pairKey
  | .pairValue => r.pairValue
  | .pairEnd => .ok (r.emit .mappingEnd (.flowEntry false))
  | .flowKey first => r.flowKey first
  | .flowValue => r.flowValue
  | .flowMissingValue => .ok (r.emit implied (.flowKey false))
  | .nothing => .ok r

/-- Takes steps until nothing is expected, at most `fuel` of them. -/
def run : Nat → Reading → Step
  | 0, r => .ok r
  | fuel + 1, r => if r.expected = .nothing then .ok r else do run fuel (← r.step)

end Reading

/-- The most steps that are taken for a token. -/
def stepsPerToken : Nat := 8

/-- The events that tokens write. -/
def ofTokens (tokens : List Token) : Except Fault (List Event) := do
  let r ← Reading.run (stepsPerToken * (tokens.length + 2)) { rest := tokens }
  return r.events.reverse

end Event

end Hostlink.Yaml
