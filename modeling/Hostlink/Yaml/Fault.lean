/-!
# Faults of YAML texts

Why a text is no YAML document, or not one that is wanted.
-/

namespace Hostlink.Yaml

/-- Why a YAML text is refused. -/
inductive Fault where
  /-- A character that no YAML text may hold. -/
  | forbiddenCharacter
  /-- A character that no token starts with. -/
  | strayCharacter
  /-- Something is not where it has to be. -/
  | missing (what : String)
  /-- Something stands where it may not. -/
  | unexpected (what : String)
  /-- Something is not allowed in its context. -/
  | misplaced (what : String)
  /-- Something is given twice. -/
  | duplicate (what : String)
  /-- The text is of a version that is not read. -/
  | incompatible
  /-- A tag by a handle that no directive declares. -/
  | undefinedTag
  /-- An alias of nothing that came before it. -/
  | unknownAnchor
  /-- A second document. -/
  | manyDocuments
  /-- A node of the wrong kind. -/
  | invalidType (found expected : String)
  deriving DecidableEq, Repr, Inhabited

/-- The wording of a fault. -/
def Fault.message : Fault → String
  | forbiddenCharacter => "control characters are not allowed"
  | strayCharacter => "found character that cannot start any token"
  | missing what => s!"did not find expected {what}"
  | unexpected what => s!"found unexpected {what}"
  | misplaced what => s!"{what} are not allowed in this context"
  | duplicate what => s!"duplicate {what}"
  | incompatible => "found incompatible YAML document"
  | undefinedTag => "found undefined tag handle"
  | unknownAnchor => "unknown anchor"
  | manyDocuments => "deserializing from YAML containing more than one document is not supported"
  | invalidType found expected => s!"invalid type: {found}, expected {expected}"

end Hostlink.Yaml
