import Scratchpad.Toml.Statement

/-!
# TOML tables

The statements of a text build one table. A key is given a value once; a table is opened by a header
once; a dotted key may extend a table only if dotted keys made it; inline tables and arrays are
never extended. `Table.read?` gives the members of the whole document, or `none` when the text is
not TOML or breaks one of these rules.
-/

namespace Scratchpad.Toml

/-- How a table came to be: by its own header, on the way to another header, or by a dotted key. -/
inductive Origin
  | header
  | implicit
  | dotted
deriving DecidableEq, Repr

/-- `tables` is an array of tables with the one opened last apart. -/
inductive Value
  | scalar (s : Scalar)
  | array (items : List Value)
  | inline (members : List (String × Value))
  | table (origin : Origin) (members : List (String × Value))
  | tables (last : List (String × Value)) (earlier : List (List (String × Value)))

abbrev Members := List (String × Value)

namespace Table

def get? (members : Members) (key : String) : Option Value :=
  members.lookup key

/-- Sets a key in its place, or at the end. -/
def set (key : String) (v : Value) : Members → Members
  | [] => [(key, v)]
  | (k, w) :: rest => if k = key then (k, v) :: rest else (k, w) :: set key v rest

/-- Changes the table at the end of a path, making the tables on the way that are missing. With
`dotted` the path is part of a key, which does not reach into tables with a header of their own. -/
def edit (dotted : Bool) (change : Origin → Members → Option Members) :
    Path → Origin → Members → Option Members
  | [], origin, members => change origin members
  | k :: rest, _, members =>
    match get? members k with
    | none => do
      let origin := if dotted then .dotted else .implicit
      return set k (.table origin (← edit dotted change rest origin [])) members
    | some (.table origin inner) =>
      if dotted && origin = .header then none
      else do return set k (.table origin (← edit dotted change rest origin inner)) members
    | some (.tables last earlier) => do
      return set k (.tables (← edit dotted change rest .header last) earlier) members
    | some _ => none

/-- Gives a value to a key that has none; after a dotted path its table must be one that dotted keys
made. -/
def add (viaPath : Bool) (key : String) (v : Value) (origin : Origin) (members : Members) :
    Option Members :=
  if (origin = .dotted) ≠ viaPath then none
  else if (get? members key).isSome then none
  else some (set key v members)

/-- An assignment to a dotted key of a table. -/
def assign (path : Path) (v : Value) (origin : Origin) (members : Members) : Option Members :=
  match path.getLast? with
  | none => none
  | some key => edit true (add (!path.dropLast.isEmpty) key v) path.dropLast origin members

/-- A header opens a table that is new or was only passed on the way to others. -/
def openTable (key : String) (_ : Origin) (members : Members) : Option Members :=
  match get? members key with
  | none => some (set key (.table .header []) members)
  | some (.table .implicit inner) => some (set key (.table .header inner) members)
  | some _ => none

def openArrayTable (key : String) (_ : Origin) (members : Members) : Option Members :=
  match get? members key with
  | none => some (set key (.tables [] []) members)
  | some (.tables last earlier) => some (set key (.tables [] (last :: earlier)) members)
  | some _ => none

/-- How many arrays and inline tables may stand inside each other. -/
def nestingLimit : Nat := 80

/-- The value of an expression with at most `depth` levels of nesting. -/
def value? : Nat → Expr → Option Value
  | _, .scalar s => some (.scalar s)
  | depth + 1, .array items => do return .array (← items.mapM (value? depth))
  | depth + 1, .inline members => do
    let values ← members.mapM fun m => do return (m.1, ← value? depth m.2)
    return .inline (← values.foldlM (fun table m => assign m.1 m.2 .header table) [])
  | 0, .array _ => none
  | 0, .inline _ => none

/-- The document so far and the path of the table that its last header opened. -/
structure Builder where
  root : Members
  current : Path

def Builder.step (b : Builder) : Statement → Option Builder
  | .assign path e => do
    let v ← value? nestingLimit e
    return { b with root := ← edit false (assign path v) b.current .header b.root }
  | .table path => do
    return ⟨← edit false (openTable (← path.getLast?)) path.dropLast .header b.root, path⟩
  | .arrayTable path => do
    let root ← edit false (openArrayTable (← path.getLast?)) path.dropLast .header b.root
    return ⟨root, path⟩

def read? (cs : List Char) : Option Members := do
  return (← (← Statement.list? cs).foldlM Builder.step ⟨[], []⟩).root

end Table

/-- An empty table or array. -/
def Value.isEmpty : Value → Bool
  | .array [] => true
  | .inline [] => true
  | .table _ [] => true
  | _ => false

/-- The members of a value that is one table. -/
def Value.members? : Value → Option Members
  | .inline members => some members
  | .table _ members => some members
  | _ => none

end Scratchpad.Toml
