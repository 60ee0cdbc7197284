import Scratchpad.Json.Document

/-!
# Response policies

Requests may overlap. `latestIssued` lets only the response to the request issued last reach the
result pane; under `lastArrival` the response that arrives last wins.
-/

namespace Scratchpad

inductive Policy
  | latestIssued
  | lastArrival
deriving DecidableEq, Repr

namespace Policy

def name : Policy → String
  | .latestIssued => "latest_issued"
  | .lastArrival => "last_arrival"

def ofName? (s : String) : Option Policy :=
  if s = "latest_issued" then some .latestIssued
  else if s = "last_arrival" then some .lastArrival
  else none

/-- The word for the policy in log events. -/
def label : Policy → String
  | .latestIssued => "LatestIssued"
  | .lastArrival => "LastArrival"

theorem ofName?_name (p : Policy) : ofName? p.name = some p := by
  cases p <;> rfl

/-- A policy is written as its name, or as an object whose only member has that name and the value
`null`. -/
def ofDocument? : Json.Document → Option Policy
  | .string (some s) => ofName? s
  | .object [(some s, .null)] => ofName? s
  | _ => none

end Policy
end Scratchpad
