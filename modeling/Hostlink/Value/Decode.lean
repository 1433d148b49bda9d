import Hostlink.Text.Quoted
import Hostlink.Value

/-!
# Reading structured values

A reader turns a value into something typed, or names the first fault it meets. A record is read
field by field: the fields that are present in the record's own order, then those that are missing
in the order of declaration. A list stands for a record whose fields are given by position.

Values come from JSON or from TOML. The two agree on most things; where they do not, the reader asks
for the `Dialect`.
-/

namespace Hostlink.Value

/-- The notation that a value was written in. -/
inductive Dialect where
  | json
  | toml
  deriving DecidableEq, Repr

/-- The written form of a number with a point. -/
def Dialect.decimalText : Dialect → Decimal → String
  | .json, x => x.scientific
  | .toml, x => x.positional

/-- Why a value could not be read. -/
inductive Fault where
  | missingField (name : String)
  | unknownField (name : String) (known : List String)
  | unknownVariant (name : String) (known : List String)
  | invalidType (found expected : String)
  | invalidValue (found expected : String)
  | invalidLength (length : Nat) (expected : String)
  | overflow (what : String)
  /-- A choice that is neither a name nor a record of one name. -/
  | malformedChoice
  deriving DecidableEq, Repr

namespace Fault

/-- Names between grave accents, as a choice among them. -/
def choice : List String → String
  | [] => "there are no variants"
  | [a] => s!"expected `{a}`"
  | [a, b] => s!"expected `{a}` or `{b}`"
  | names => "expected one of " ++ ", ".intercalate (names.map fun n => s!"`{n}`")

/-- The wording of a fault. -/
def message : Fault → String
  | missingField name => s!"missing field `{name}`"
  | unknownField name known => s!"unknown field `{name}`, {choice known}"
  | unknownVariant name known => s!"unknown variant `{name}`, {choice known}"
  | invalidType found expected => s!"invalid type: {found}, expected {expected}"
  | invalidValue found expected => s!"invalid value: {found}, expected {expected}"
  | invalidLength length expected => s!"invalid length {length}, expected {expected}"
  | overflow what => s!"overflow deserializing {what}"
  | malformedChoice => "wanted exactly 1 element"

end Fault

/-- How a value that does not fit is described. -/
def describe (d : Dialect) : Value → String
  | .null => "null"
  | .bool b => s!"boolean `{b}`"
  | .int n => s!"integer `{n}`"
  | .decimal x => s!"floating point `{d.decimalText x}`"
  | .text s => s!"string {Text.quoted s}"
  | .list _ => "sequence"
  | .record _ => "map"

/-- A reader of values. -/
abbrev Reader (α : Type) := Dialect → Value → Except Fault α

/-- Refuses a value of the wrong kind. -/
def refuse {α : Type} (expected : String) (d : Dialect) (v : Value) : Except Fault α :=
  .error (.invalidType (v.describe d) expected)

/-- Reads a text. -/
def readText (expected : String) : Reader String
  | _, .text s => .ok s
  | d, v => refuse expected d v

/-- Reads a truth value. -/
def readBool : Reader Bool
  | _, .bool b => .ok b
  | d, v => refuse "a boolean" d v

/-- Reads an integer from `low` to `high`. -/
def readInt (low high : Int) (expected : String) : Reader Int
  | d, .int n =>
    if low ≤ n ∧ n ≤ high then .ok n
    else .error (.invalidValue ((Value.int n).describe d) expected)
  | d, v => refuse expected d v

/-- Reads an unsigned integer of `bits` bits. -/
def readUnsigned (bits : Nat) : Reader Nat
  | d, v => (readInt 0 (Int.ofNat (Nat.pow 2 bits - 1)) s!"u{bits}" d v).map Int.toNat

/-- Reads a number of 16 bits. -/
def readUInt16 : Reader UInt16
  | d, v => (readUnsigned 16 d v).map UInt16.ofNat

/-- Reads a number of 32 bits. -/
def readUInt32 : Reader UInt32
  | d, v => (readUnsigned 32 d v).map UInt32.ofNat

/-- Reads a number of 64 bits. -/
def readUInt64 : Reader UInt64
  | d, v => (readUnsigned 64 d v).map UInt64.ofNat

/-- Reads a signed number of 32 bits. -/
def readInt32 : Reader Int32
  | d, v => (readInt (-2147483648) 2147483647 "i32" d v).map Int32.ofInt

/-- Reads what may be absent. -/
def readOptional {α : Type} (read : Reader α) : Reader (Option α)
  | _, .null => .ok none
  | d, v => (read d v).map some

/-- Reads one of the named choices: its name, or a record of that name alone with nothing in it. -/
def readVariant {α : Type} (variants : List (String × α)) : Reader α
  | d, v =>
    let pick (name : String) : Except Fault α :=
      match variants.lookup name with
      | some a => .ok a
      | none => .error (.unknownVariant name (variants.map (·.1)))
    match d, v with
    | _, .text name => pick name
    | .json, .record [(name, payload)] => do
      let a ← pick name
      match payload with
      | .null => return a
      | _ => refuse "unit" d payload
    | .toml, .record [(name, payload)] => do
      let a ← pick name
      match payload with
      | .record [] | .list [] => return a
      | _ => throw .malformedChoice
    | .json, .record _ => .error (.invalidValue (v.describe d) "map with a single key")
    | .json, _ => refuse "string or map" d v
    | .toml, _ => .error .malformedChoice

/-! ## Records -/

/-- A record's name and the names of its fields, in order of declaration. -/
structure Layout where
  name : String
  fields : List String

/-- The fields of one value, laid open for reading. -/
structure Fields where
  layout : Layout
  dialect : Dialect
  /-- Whether the fields were given by position. -/
  byPosition : Bool
  find? : String → Option Value

/-- Lays a value open. `check` reads one named field; it is tried on the fields of a record in the
record's order, so that the first faulty one is the one that is named. -/
def Layout.view (l : Layout) (check : Dialect → String → Value → Except Fault Unit) (d : Dialect) :
    Value → Except Fault Fields
  | .record entries => do
    for (name, v) in entries do
      check d name v
    return ⟨l, d, false, fun name => entries.lookup name⟩
  | .list items => .ok ⟨l, d, true, fun name => items[l.fields.idxOf name]?⟩
  | v => refuse s!"struct {l.name}" d v

/-- Reads a field, taking `absent` where it is not given. -/
def Fields.read {α : Type} (fs : Fields) (name : String) (read : Reader α) (absent : Option α) :
    Except Fault α :=
  match fs.find? name, absent with
  | some v, _ => read fs.dialect v
  | none, some a => .ok a
  | none, none =>
    if fs.byPosition then
      let size := fs.layout.fields.length
      let elements := if size = 1 then "1 element" else s!"{size} elements"
      .error (.invalidLength (fs.layout.fields.idxOf name) s!"struct {fs.layout.name} with {elements}")
    else .error (.missingField name)

/-- Refuses what a list holds beyond the fields, which JSON does and TOML does not. -/
def Layout.refuseSurplus (l : Layout) (d : Dialect) : Value → Except Fault Unit
  | .list items =>
    if d = .json ∧ items.length > l.fields.length then
      .error (.invalidLength items.length "fewer elements in array")
    else .ok ()
  | _ => .ok ()

end Hostlink.Value
