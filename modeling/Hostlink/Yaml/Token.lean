/-!
# Tokens

The parts of a YAML text. Where the text shows a block only by its indentation, tokens of their own
mark its start and its end, and a key that is known only by the colon after it is preceded by a
token that says so.
-/

namespace Hostlink.Yaml

/-- How a scalar is written. -/
inductive Style where
  | plain
  | quoted
  | block
  deriving DecidableEq, Repr

/-- A part of a YAML text. -/
inductive Token where
  | version (major minor : Nat)
  /-- Declares what a handle stands for in tags. -/
  | handle (name meaning : String)
  | documentStart
  | documentEnd
  | blockSequenceStart
  | blockMappingStart
  | blockEnd
  | flowSequenceStart
  | flowSequenceEnd
  | flowMappingStart
  | flowMappingEnd
  | blockEntry
  | flowEntry
  | key
  | value
  | alias (name : String)
  | anchor (name : String)
  | tag (handle suffix : String)
  | scalar (text : String) (style : Style)
  deriving DecidableEq, Repr

end Hostlink.Yaml
