import Scratchpad.Catalog
import Scratchpad.Editor

/-!
# The pad

The pad is the editor together with the catalog. All change goes through `Pad.update`, a pure
function from a message to the next pad and a transition: the requests to make, whether anything
visible changed, and what is worth a note in the log.
-/

namespace Scratchpad

structure Pad where
  editor : Editor
  catalog : Catalog

inductive Message
  | textChanged (text : String)
  | submit
  | evalFinished (t : Ticket) (outcome : Outcome Json)
  | catalogMounted
  | catalogLoaded (outcome : Outcome (List Entry))
  | selectionChanged (value : String)

inductive Request
  | evaluate (t : Ticket) (text : String)
  | fetchCatalog
deriving DecidableEq, Repr

inductive Note
  | evalFailed (t : Ticket) (f : Failure)
  | staleResponse (t : Ticket) (latest : Ticket)
  | catalogFailed (f : Failure)
  | catalogEmpty
  | catalogAlreadySettled
  | alreadyMounted
deriving DecidableEq, Repr

structure Transition where
  requests : List Request
  changed : Bool
  note : Option Note
deriving DecidableEq, Repr

namespace Transition

def quiet (changed : Bool) : Transition := ⟨[], changed, none⟩

def noted (changed : Bool) (n : Note) : Transition := ⟨[], changed, some n⟩

def asking (r : Request) : Transition := ⟨[r], true, none⟩

end Transition

namespace Pad

def empty (policy : Policy) : Pad :=
  ⟨.empty policy, .unmounted⟩

/-- Installs a value that the catalog chose. -/
def deliver (p : Pad) (value : String) : Pad :=
  { p with editor := (p.editor.setText value).1 }

def update (p : Pad) : Message → Pad × Transition
  | .textChanged text =>
    let (editor, changed) := p.editor.setText text
    ({ p with editor }, .quiet changed)
  | .submit =>
    let (editor, t) := p.editor.begin
    ({ p with editor }, .asking (.evaluate t p.editor.text))
  | .evalFinished t outcome =>
    let (editor, disposition) := p.editor.finish t outcome
    let transition : Transition :=
      match disposition with
      | .applied => .quiet true
      | .stale latest => .noted true (.staleResponse t latest)
      | .failed f => .noted true (.evalFailed t f)
    ({ p with editor }, transition)
  | .catalogMounted =>
    match p.catalog.mount with
    | (catalog, true) => ({ p with catalog }, .asking .fetchCatalog)
    | (_, false) => (p, .noted false .alreadyMounted)
  | .catalogLoaded outcome =>
    let (catalog, disposition) := p.catalog.finishLoad outcome
    let p' := { p with catalog }
    match disposition with
    | .loaded (some value) => (p'.deliver value, .quiet true)
    | .loaded none => (p', .noted true .catalogEmpty)
    | .failed f => (p', .noted true (.catalogFailed f))
    | .ignored => (p', .noted false .catalogAlreadySettled)
  | .selectionChanged value =>
    (deliver { p with catalog := p.catalog.select value } value, .quiet true)

end Pad
end Scratchpad
