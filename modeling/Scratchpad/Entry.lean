import Scratchpad.Json.Writer

/-!
# Catalog entries

An entry names a snippet. Lists of entries travel as JSON: the server writes each entry as an object
with the members `name` and `value` in this order; a reader takes them in any order, lets pass
members it does not know, and also accepts a two-item array.
-/

namespace Scratchpad

structure Entry where
  name : String
  value : String
deriving DecidableEq, Repr

namespace Entry

open Json (Document)

/-- The members of an entry met so far. -/
structure Fields where
  name : Option String
  value : Option String

/-- A member named `name` or `value` must be a text and must not come twice. -/
def Fields.add (f : Fields) : Option String × Document → Option Fields
  | (some "name", d) =>
    match f.name, d with
    | none, .string (some s) => some { f with name := some s }
    | _, _ => none
  | (some "value", d) =>
    match f.value, d with
    | none, .string (some s) => some { f with value := some s }
    | _, _ => none
  | (some _, _) => some f
  | (none, _) => none

def ofDocument? : Document → Option Entry
  | .object members => do
    let f ← members.foldlM Fields.add ⟨none, none⟩
    return ⟨← f.name, ← f.value⟩
  | .array [.string (some name), .string (some value)] => some ⟨name, value⟩
  | _ => none

def listOfDocument? : Document → Option (List Entry)
  | .array items => items.mapM ofDocument?
  | _ => none

def listOfBytes? (body : Bytes) : Option (List Entry) := do
  listOfDocument? (← Document.ofBytes? body)

def toJson (e : Entry) : Json :=
  .object [("name", .string e.name), ("value", .string e.value)]

/-- The catalog as the server keeps and serves it. -/
def renderList (entries : List Entry) : String :=
  (Json.array (entries.map toJson)).compact

end Entry
end Scratchpad
