import Hostlink.Yaml.Event
import Hostlink.Yaml.Token.Stream

/-!
# Documents

The one document of a text, in which aliases refer to anchors, and the fields that are read from its
mapping. An anchor is known by how many names there were before it, so a name that is given again
refers to its last node.
-/

namespace Hostlink.Yaml

/-- A part of a document. -/
inductive Item where
  | event (event : Event)
  /-- An alias of the anchor with this number. -/
  | again (anchor : Nat)
  deriving DecidableEq, Repr

/-- A document: its parts in order, and the nodes that carry anchors. -/
structure Document where
  items : List Item := []
  anchored : List (Nat × Event) := []

namespace Document

/-- The anchor that a node carries. -/
def anchorOf : Event → Option String
  | .scalar _ _ _ anchor | .sequenceStart anchor | .mappingStart anchor => anchor
  | _ => none

/-- A document that is being built: its parts are in reverse, and the names of its anchors have
their numbers. -/
structure Draft where
  document : Document := {}
  names : List (String × Nat) := []

/-- Adds an event to a draft. -/
def Draft.add (d : Draft) (e : Event) : Except Fault Draft :=
  match e, anchorOf e with
  | .alias name, _ =>
    match d.names.lookup name with
    | some id => .ok { d with document.items := .again id :: d.document.items }
    | none => .error .unknownAnchor
  | e, none => .ok { d with document.items := .event e :: d.document.items }
  | e, some name =>
    let id := d.names.length
    .ok {
      document := ⟨.event e :: d.document.items, (id, e) :: d.document.anchored⟩
      names := (name, id) :: d.names.filter (·.1 ≠ name) }

/-- The document of a text; it is empty where there is none. -/
def ofText (text : String) : Except Fault Document := do
  let events ← Event.ofTokens (← tokens text)
  let (content, after) := events.tail.span (· ≠ .documentEnd)
  let draft ← content.foldlM Draft.add {}
  if after.length > 1 then throw .manyDocuments
  return { draft.document with items := draft.document.items.reverse }

/-! ## Fields -/

/-- Whether a collection starts with this part. -/
def opens : Item → Bool
  | .event (.sequenceStart _) | .event (.mappingStart _) => true
  | _ => false

/-- Whether a collection ends with this part. -/
def closes : Item → Bool
  | .event .sequenceEnd | .event .mappingEnd => true
  | _ => false

/-- The first parts of the nodes in a collection, to its end; `depth` counts the collections that
are open within it. -/
def children : Nat → List Item → List Item
  | _, [] => []
  | 0, item :: rest =>
    if closes item then [] else item :: children (if opens item then 1 else 0) rest
  | depth + 1, item :: rest =>
    children (if opens item then depth + 2 else if closes item then depth else depth + 1) rest

/-- Keys with their values. -/
def pairs : List Item → List (Item × Item)
  | key :: value :: rest => (key, value) :: pairs rest
  | _ => []

/-- The node that a part stands for. -/
def node (d : Document) : Item → Except Fault Event
  | .event e => .ok e
  | .again id =>
    match d.anchored.lookup id with
    | some e => .ok e
    | none => .error .unknownAnchor

/-- What a node is called where it is of the wrong kind. -/
def describe : Event → String
  | .sequenceStart _ => "sequence"
  | .mappingStart _ => "map"
  | _ => "scalar"

/-- The text of a scalar. -/
def scalarText : Event → Except Fault String
  | .scalar text .. => .ok text
  | e => .error (.invalidType (describe e) "a string")

/-- The scalars that say that there is nothing. -/
def nulls : List String := ["null", "Null", "NULL", "~"]

/-- The tag of a scalar that says that there is nothing. -/
def nullTag : String := "tag:yaml.org,2002:null"

/-- The text of a scalar, unless it says that there is nothing. -/
def optionalText : Event → Except Fault (Option String)
  | .scalar text .plain none _ => .ok (if text.isEmpty || text ∈ nulls then none else some text)
  | .scalar text .plain (some tag) _ =>
    if tag = nullTag then
      if text ∈ nulls then .ok none else .error (.invalidType text "null")
    else .ok (if text.isEmpty then none else some text)
  | .scalar text .. => .ok (some text)
  | e => .error (.invalidType (describe e) "a string")

/-- The keys and values of a document's mapping. A document without content is an empty mapping. -/
def entries (d : Document) : Except Fault (List (Item × Item)) :=
  match d.items with
  | [] | [.event (.scalar "" .plain _ _)] => .ok []
  | .event (.mappingStart _) :: rest => .ok (pairs (children 0 rest))
  | .event e :: _ => .error (.invalidType (describe e) "a mapping")
  | .again _ :: _ => .error .unknownAnchor

/-- The text of a field of a document's mapping; a field that is given twice is refused. -/
def field? (d : Document) (name : String) : Except Fault (Option String) := do
  let named ← (← d.entries).filterM fun (key, _) => return (← scalarText (← d.node key)) = name
  match named with
  | [] => return none
  | [(_, value)] => optionalText (← d.node value)
  | _ :: _ :: _ => throw (.duplicate s!"field `{name}`")

end Document

end Hostlink.Yaml
