import Hostlink.Value

/-!
# Values in print

The JSON notation of a value, spread over lines with two spaces for each level.
-/

namespace Hostlink.Value

/-- A text as a JSON string: quotes, backslashes and controls are escaped, all else stands as it
is. -/
def jsonString (s : String) : String :=
  let hex (n : Nat) := Nat.digitChar (n % 16)
  let escape (c : Char) : List Char :=
    if c = '"' then ['\\', '"']
    else if c = '\\' then ['\\', '\\']
    else if c = '\n' then ['\\', 'n']
    else if c = '\r' then ['\\', 'r']
    else if c = '\t' then ['\\', 't']
    else if c.toNat = 8 then ['\\', 'b']
    else if c.toNat = 12 then ['\\', 'f']
    else if c.toNat < 32 then ['\\', 'u', '0', '0', hex (c.toNat / 16), hex c.toNat]
    else [c]
  String.ofList ('"' :: s.toList.flatMap escape ++ ['"'])

/-- Items on lines of their own between two brackets. -/
def spread (opening closing : String) (depth : Nat) (items : List String) : String :=
  let indent (n : Nat) := String.ofList (List.replicate (2 * n) ' ')
  if items.isEmpty then opening ++ closing
  else
    let lines := items.map fun item => indent (depth + 1) ++ item
    opening ++ "\n" ++ ",\n".intercalate lines ++ "\n" ++ indent depth ++ closing

mutual

/-- A value in print, `depth` levels in. -/
def pretty (depth : Nat) : Value → String
  | .null => "null"
  | .bool b => if b then "true" else "false"
  | .int n => toString n
  | .decimal d => d.scientific
  | .text s => jsonString s
  | .list items => spread "[" "]" depth (prettyItems (depth + 1) items)
  | .record fields => spread "\x7b" "\x7d" depth (prettyFields (depth + 1) fields)

/-- The elements of a list in print. -/
def prettyItems (depth : Nat) : List Value → List String
  | [] => []
  | v :: rest => v.pretty depth :: prettyItems depth rest

/-- The fields of a record in print. -/
def prettyFields (depth : Nat) : List (String × Value) → List String
  | [] => []
  | (name, v) :: rest => s!"{jsonString name}: {v.pretty depth}" :: prettyFields depth rest

end

end Hostlink.Value
