import Scratchpad.Entry
import Scratchpad.Failure
import Scratchpad.Http.Message
import Scratchpad.Settings

/-!
# The client

A client makes the two requests of a session, at the addresses of its settings. The outcome of a
request is a value only if the response is a success and its whole body can be read as what was
asked for.
-/

namespace Scratchpad

/-- Only usable settings make a client. -/
structure Client where
  settings : Settings
  usable : settings.fault? = none

namespace Client

open Http (Network Reception)

def ofSettings (s : Settings) : Except Settings.Fault Client :=
  match h : s.fault? with
  | some f => .error f
  | none => .ok ⟨s, h⟩

/-- What a request came to: there was no response, or it was no success, or its body broke off or
could not be read. -/
def outcomeOf {α : Type} (read : Bytes → Option α) : Except String Reception → Outcome α
  | .error detail => .error (.transport detail)
  | .ok r =>
    if Http.isSuccess r.status then
      match r.body with
      | .error detail => .error (.transport detail)
      | .ok body =>
        match read body with
        | some a => .ok a
        | none => .error (.decode "unexpected content")
    else .error (.status r.status)

def evalRequest (c : Client) (text : String) : Http.Request :=
  ⟨.post, c.settings.evalUrl, [("content-type", "text/plain; charset=utf-8")], Bytes.ofString text⟩

def examplesRequest (c : Client) : Http.Request :=
  ⟨.get, c.settings.examplesUrl, [], []⟩

/-- Has a text evaluated. -/
def evaluate (c : Client) (net : Network) (text : String) : Outcome Json :=
  outcomeOf Json.ofBytes? (net (c.evalRequest text))

def fetchExamples (c : Client) (net : Network) : Outcome (List Entry) :=
  outcomeOf Entry.listOfBytes? (net c.examplesRequest)

end Client
end Scratchpad
