import Scratchpad.Failure
import Scratchpad.Policy
import Scratchpad.Json.Value

/-!
# The editor

The editor holds the text, the result last shown and the requests that still await a response.
Every submission takes a ticket; tickets are numbered from one, so the last one taken is known from
their number. Submissions may overlap. A response is settled by `finish`: under `latestIssued` the
value of any ticket but the last one is stale and dropped.
-/

namespace Scratchpad

/-- The `index`-th request that an editor issues. -/
structure Ticket where
  index : Nat
deriving DecidableEq, Repr

def Ticket.text (t : Ticket) : String :=
  "#" ++ t.index.repr

/-- `inFlight` lists the tickets without a response in the order they were taken. -/
structure Editor where
  text : String
  result : Option Json
  policy : Policy
  issued : Nat
  inFlight : List Ticket

/-- What became of a response. -/
inductive Disposition
  | applied
  | stale (latest : Ticket)
  | failed (f : Failure)
deriving DecidableEq, Repr

namespace Editor

def empty (policy : Policy) : Editor :=
  { text := "", result := none, policy, issued := 0, inFlight := [] }

def latest? (e : Editor) : Option Ticket :=
  if e.issued = 0 then none else some ⟨e.issued⟩

def isPending (e : Editor) : Bool :=
  !e.inFlight.isEmpty

/-- Replaces the text; the flag says whether it differs from the one before. -/
def setText (e : Editor) (text : String) : Editor × Bool :=
  ({ e with text }, e.text != text)

/-- Takes a ticket for the text as it stands. -/
def begin (e : Editor) : Editor × Ticket :=
  let t : Ticket := ⟨e.issued + 1⟩
  ({ e with issued := e.issued + 1, inFlight := e.inFlight ++ [t] }, t)

/-- The ticket whose request supersedes that of `t`, if the policy heeds it. -/
def supersededBy? (e : Editor) (t : Ticket) : Option Ticket :=
  match e.policy with
  | .latestIssued => e.latest?.filter (· ≠ t)
  | .lastArrival => none

/-- Settles the request of `t`. Nothing is asked of the ticket: it may be settled already or never
have been issued. -/
def finish (e : Editor) (t : Ticket) (outcome : Outcome Json) : Editor × Disposition :=
  let e := { e with inFlight := e.inFlight.filter (· ≠ t) }
  match outcome with
  | .error f => (e, .failed f)
  | .ok v =>
    match e.supersededBy? t with
    | some latest => (e, .stale latest)
    | none => ({ e with result := some v }, .applied)

end Editor
end Scratchpad
