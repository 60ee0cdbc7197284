import Scratchpad.Policy
import Scratchpad.Text.Character

/-!
# Settings

What a client needs to know: the two endpoints, how often it redraws, how long it waits for a
response, and which responses it shows. Settings are usable when neither endpoint is blank and
neither number is zero.
-/

namespace Scratchpad

structure Settings where
  evalUrl : String
  examplesUrl : String
  redrawIntervalMs : UInt64
  requestTimeoutSecs : UInt64
  responsePolicy : Policy
deriving DecidableEq, Repr

namespace Settings

/-- Why settings are not usable; of several faults the first one listed here is named. -/
inductive Fault
  | blankEvalUrl
  | blankExamplesUrl
  | zeroRedrawInterval
  | zeroRequestTimeout
deriving DecidableEq, Repr

def Fault.message : Fault → String
  | .blankEvalUrl => "eval_url must not be empty"
  | .blankExamplesUrl => "examples_url must not be empty"
  | .zeroRedrawInterval => "redraw_interval_ms must be > 0"
  | .zeroRequestTimeout => "request_timeout_secs must be > 0"

def defaultServer : String := "http://127.0.0.1:8080"

/-- A server's root without the slashes at its end. -/
def serverBase (server : String) : String :=
  String.ofList (server.toList.reverse.dropWhile (· = '/')).reverse

/-- Points both endpoints at a server. -/
def setServer (s : Settings) (server : String) : Settings :=
  { s with
    evalUrl := serverBase server ++ "/eval"
    examplesUrl := serverBase server ++ "/examples" }

def forServer (server : String) : Settings :=
  setServer
    { evalUrl := "", examplesUrl := "", redrawIntervalMs := 500, requestTimeoutSecs := 30,
      responsePolicy := .latestIssued } server

def default : Settings :=
  forServer defaultServer

def fault? (s : Settings) : Option Fault :=
  if Text.isBlankText s.evalUrl then some .blankEvalUrl
  else if Text.isBlankText s.examplesUrl then some .blankExamplesUrl
  else if s.redrawIntervalMs = 0 then some .zeroRedrawInterval
  else if s.requestTimeoutSecs = 0 then some .zeroRequestTimeout
  else none

def validate (s : Settings) : Except Fault Unit :=
  match s.fault? with
  | some f => .error f
  | none => .ok ()

def redrawMillis (s : Settings) : Nat :=
  s.redrawIntervalMs.toNat

def requestTimeoutMillis (s : Settings) : Nat :=
  s.requestTimeoutSecs.toNat * 1000

end Settings
end Scratchpad
