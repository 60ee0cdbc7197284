/-!
# Failed requests

A request to the server fails in one of three ways: no response came, the response has a status that
is no success, or its body is not what was asked for. A failure is reported and changes nothing that
the user sees.
-/

namespace Scratchpad

inductive Failure
  | transport (detail : String)
  | status (code : Nat)
  | decode (detail : String)
deriving DecidableEq, Repr

/-- What a request came to: its value, or why there is none. -/
abbrev Outcome (α : Type) := Except Failure α

def Failure.message : Failure → String
  | .transport detail => "transport failure: " ++ detail
  | .status code => "unexpected status " ++ code.repr
  | .decode detail => "malformed response body: " ++ detail

end Scratchpad
