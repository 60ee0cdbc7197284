import Scratchpad.Entry
import Scratchpad.Failure

/-!
# The catalog of examples

The catalog is fetched once, when it is mounted, and filled once, by the response to that fetch.
Loading a non-empty catalog chooses its first entry. The catalog speaks to the editor only through
the values it chooses.
-/

namespace Scratchpad

inductive Phase
  | unmounted
  | loading
  | loaded
  | failed
deriving DecidableEq, Repr

/-- Only a loaded catalog has entries and a selection. -/
inductive Catalog
  | unmounted
  | loading
  | loaded (items : List Entry) (selected : Option Nat)
  | failed
deriving DecidableEq, Repr

/-- What became of a catalog response. -/
inductive LoadDisposition
  | loaded (chosen : Option String)
  | failed (f : Failure)
  | ignored
deriving DecidableEq, Repr

namespace Catalog

def phase : Catalog → Phase
  | .unmounted => .unmounted
  | .loading => .loading
  | .loaded .. => .loaded
  | .failed => .failed

def items : Catalog → List Entry
  | .loaded items _ => items
  | _ => []

/-- The position of the entry shown as selected. -/
def selected : Catalog → Option Nat
  | .loaded _ selected => selected
  | _ => none

/-- The first entry of that name. -/
def find? (c : Catalog) (name : String) : Option Entry :=
  c.items.find? (·.name == name)

/-- Starts the one load; the flag says whether it was started now. -/
def mount : Catalog → Catalog × Bool
  | .unmounted => (.loading, true)
  | c => (c, false)

/-- Takes the response to the load; any other response is ignored. -/
def finishLoad : Catalog → Outcome (List Entry) → Catalog × LoadDisposition
  | .loading, .ok [] => (.loaded [] none, .loaded none)
  | .loading, .ok (e :: rest) => (.loaded (e :: rest) (some 0), .loaded (some e.value))
  | .loading, .error f => (.failed, .failed f)
  | c, _ => (c, .ignored)

/-- Marks the first entry with that value, or none if there is no such entry. -/
def select : Catalog → String → Catalog
  | .loaded items _, value => .loaded items (items.findIdx? (·.value == value))
  | c, _ => c

end Catalog
end Scratchpad
