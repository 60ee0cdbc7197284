import Scratchpad.Pad

/-!
# Log events

What the program reports beside its output. An event is a level, a message and fields; which event
a note of a transition becomes is `Event.ofNote`.
-/

namespace Scratchpad

inductive Event
  | fetchingCatalog
  | submitting (t : Ticket) (bytes : Nat)
  | evalFailed (t : Ticket) (f : Failure)
  | staleResponse (t : Ticket) (latest : Ticket)
  | catalogFailed (f : Failure)
  | catalogEmpty
  | lateCatalog
  | alreadyMounted
  | noSuchExample (name : String)
  | sessionStarted (policy : Policy) (redrawMs : Nat)
  | sessionEnded (inFlight : Nat)
  | drawFailed (error : String)
  | examplesMissing (dir : String)
deriving DecidableEq, Repr

namespace Event

inductive Level
  | debug
  | info
  | warn
deriving DecidableEq, Repr

def Level.label : Level → String
  | .debug => "DEBUG"
  | .info => "INFO"
  | .warn => "WARN"

def ofNote : Note → Event
  | .evalFailed t f => .evalFailed t f
  | .staleResponse t latest => .staleResponse t latest
  | .catalogFailed f => .catalogFailed f
  | .catalogEmpty => .catalogEmpty
  | .catalogAlreadySettled => .lateCatalog
  | .alreadyMounted => .alreadyMounted

def ofRequest : Request → Event
  | .evaluate t text => .submitting t text.utf8ByteSize
  | .fetchCatalog => .fetchingCatalog

def level : Event → Level
  | .fetchingCatalog | .submitting .. | .staleResponse .. | .lateCatalog | .alreadyMounted => .debug
  | .catalogEmpty | .sessionStarted .. | .sessionEnded _ => .info
  | .evalFailed .. | .catalogFailed _ | .noSuchExample _ | .drawFailed _ | .examplesMissing _ =>
    .warn

def message : Event → String
  | .fetchingCatalog => "fetching example catalog"
  | .submitting .. => "submitting evaluation"
  | .evalFailed .. => "evaluation failed"
  | .staleResponse .. => "discarding response to superseded request"
  | .catalogFailed _ => "failed to load example catalog"
  | .catalogEmpty => "example catalog is empty"
  | .lateCatalog => "ignoring late catalog response"
  | .alreadyMounted => "catalog already mounted"
  | .noSuchExample _ => "no example with that name"
  | .sessionStarted .. => "session started"
  | .sessionEnded _ => "session ended"
  | .drawFailed _ => "failed to draw frame"
  | .examplesMissing _ => "examples directory not found, serving empty catalog"

def fields : Event → List (String × String)
  | .submitting t bytes => [("token", t.text), ("bytes", bytes.repr)]
  | .evalFailed t f => [("token", t.text), ("error", f.message)]
  | .staleResponse t latest => [("token", t.text), ("latest", latest.text)]
  | .catalogFailed f => [("error", f.message)]
  | .noSuchExample name => [("name", name)]
  | .sessionStarted policy ms => [("policy", policy.label), ("redraw_ms", ms.repr)]
  | .sessionEnded n => [("in_flight", n.repr)]
  | .drawFailed error => [("error", error)]
  | .examplesMissing dir => [("dir", dir)]
  | .fetchingCatalog | .catalogEmpty | .lateCatalog | .alreadyMounted => []

def text (e : Event) : String :=
  e.level.label ++ " " ++ e.message ++
    String.join (e.fields.map fun f => " " ++ f.1 ++ "=" ++ f.2)

end Event
end Scratchpad
