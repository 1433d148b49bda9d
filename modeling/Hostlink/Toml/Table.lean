import Hostlink.Value

/-!
# Tables of TOML

A text builds its tables piece by piece: pairs with dotted keys, and headers that open a table or
add one to an array of tables. How a table came to be decides what may still be done to it. A table
that is only implied by a header below it can be opened once, and then moves behind its siblings; a
table that dotted keys made takes more dotted keys; a table that is open or was, and any value, is
closed.
-/

namespace Hostlink.Toml

/-- How a table came to be. -/
inductive Origin where
  /-- Its own header opened it. -/
  | header
  /-- It is on the way to a table of another header. -/
  | implied
  /-- It is on the way to a dotted key. -/
  | dotted
  deriving DecidableEq, Repr

/-- What stands under a key. -/
inductive Node where
  | value (v : Value)
  | table (origin : Origin) (entries : List (String × Node))
  | tables (items : List (List (String × Node)))
  deriving Inhabited

/-- The entries of a table, in order. -/
abbrev Entries := List (String × Node)

namespace Entries

/-- Entries with another node under a key that is there. -/
def replace (es : Entries) (name : String) (node : Node) : Entries :=
  es.map fun e => if e.1 = name then (name, node) else e

/-- Acts on the table that is reached by keys, making the tables on the way. The table is not to be
one of an origin that `closed` holds of, nor is one on the way. -/
def update (made : Origin) (closed : Origin → Bool) (act : Option Origin → Entries → Option Entries)
    (here : Option Origin) : List String → Entries → Option Entries
  | [], es => act here es
  | name :: path, es =>
    match es.lookup name with
    | none => do
      let inner ← update made closed act (some made) path []
      return es ++ [(name, .table made inner)]
    | some (.value _) => none
    | some (.table origin inner) => do
      if closed origin then none
      let inner ← update made closed act (some origin) path inner
      return es.replace name (.table origin inner)
    | some (.tables items) => do
      let inner ← update made closed act (some .header) path (items.getLast?.getD [])
      return es.replace name (.tables (items.dropLast ++ [inner]))

/-- Adds a pair whose key is `path` and then `name`. A key with dots leads to a table that dots
made, and one without stays in the table that is open. -/
def put (path : List String) (name : String) (v : Value) (es : Entries) : Option Entries :=
  let add (origin : Option Origin) (es : Entries) : Option Entries :=
    if (!path.isEmpty && origin ≠ some .dotted) || (es.lookup name).isSome then none
    else some (es ++ [(name, .value v)])
  update .dotted (· = .header) add none path es

/-- A key with dots: the tables that it leads through, and its name in the last one. -/
abbrev Key := List String × String

/-- Adds pairs one after another. -/
def fill (pairs : List (Key × Value)) (es : Entries) : Option Entries :=
  pairs.foldlM (fun es ((path, name), v) => es.put path name v) es

/-- Opens the table of a header, and adds its pairs. -/
def openTable (key : Key) (pairs : List (Key × Value)) (es : Entries) : Option Entries :=
  let act (_ : Option Origin) (es : Entries) : Option Entries :=
    match es.lookup key.2 with
    | none => do return es ++ [(key.2, .table .header (← fill pairs []))]
    | some (.table .implied inner) => do
      let body ← fill pairs inner
      return es.filter (·.1 ≠ key.2) ++ [(key.2, .table .header body)]
    | some _ => none
  update .implied (fun _ => false) act none key.1 es

/-- Adds a table to the array of a header, and adds its pairs. -/
def addTable (key : Key) (pairs : List (Key × Value)) (es : Entries) : Option Entries :=
  let act (_ : Option Origin) (es : Entries) : Option Entries :=
    match es.lookup key.2 with
    | none => do return es ++ [(key.2, .tables [← fill pairs []])]
    | some (.tables items) => do
      let body ← fill pairs []
      return es.replace key.2 (.tables (items ++ [body]))
    | some _ => none
  update .implied (fun _ => false) act none key.1 es

end Entries

/-! ## Values -/

mutual

/-- The value of what stands under a key. -/
def Node.toValue : Node → Value
  | .value v => v
  | .table _ entries => .record (entryValues entries)
  | .tables items => .list (tableValues items)

/-- The values of entries. -/
def entryValues : List (String × Node) → List (String × Value)
  | [] => []
  | (name, node) :: rest => (name, node.toValue) :: entryValues rest

/-- The values of the tables of an array. -/
def tableValues : List (List (String × Node)) → List Value
  | [] => []
  | entries :: rest => .record (entryValues entries) :: tableValues rest

end

end Hostlink.Toml
