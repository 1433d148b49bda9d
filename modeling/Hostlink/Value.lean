import Hostlink.Decimal

/-!
# Structured values

What a description of a target or a command is read from and written to: scalars, lists, and
records whose fields keep their order.
-/

namespace Hostlink

/-- A structured value. -/
inductive Value where
  | null
  | bool (b : Bool)
  | int (n : Int)
  | decimal (d : Decimal)
  | text (s : String)
  | list (items : List Value)
  | record (fields : List (String × Value))
  deriving Repr, Inhabited

namespace Value

/-- A value that may be absent. -/
def optional {α : Type} (write : α → Value) : Option α → Value
  | none => .null
  | some a => write a

end Value

end Hostlink
