import Scratchpad.Evaluator
import Scratchpad.Http.Site
import Scratchpad.Library

/-!
# The server

The server evaluates snippets and serves the catalog, which is rendered once when it starts. These
two routes and the one for its health may be used from any origin. All other paths belong to a
directory of static files, if there is one.
-/

namespace Scratchpad

open Files (Path System)

/-- `site` is the directory of static files. -/
structure Server where
  evaluator : Evaluator
  catalog : String
  site : Option Path

namespace Server

open Http (Header Method Response)

/-- Why a server does not start. -/
inductive StartError
  | evaluator (f : Evaluator.Fault)
  | examples (u : Library.Unreadable)
deriving DecidableEq, Repr

def StartError.causes : StartError → List String
  | .evaluator f => [f.message]
  | .examples u => u.causes

/-- A server with these examples. -/
def ofEntries (e : Evaluator) (entries : List Entry) (site : Option Path) : Server :=
  ⟨e, Entry.renderList entries, site⟩

/-- A server with the examples of a directory; a directory of static files that does not exist
counts as none. The events are those of loading the examples. -/
def load (fs : System) (e : Evaluator) (examples : Path) (site : Option Path) :
    Except StartError Server × List Event :=
  match e.validate with
  | .error f => (.error (.evaluator f), [])
  | .ok () =>
    let (entries, log) := Library.load fs examples
    (match entries with
      | .error u => .error (.examples u)
      | .ok entries => .ok (ofEntries e entries (site.filter fs.pathExists)), log)

inductive Route
  | eval
  | examples
  | health
deriving DecidableEq, Repr

/-- Paths are compared as they are written. -/
def route? : String → Option Route
  | "/eval" => some .eval
  | "/examples" => some .examples
  | "/api/health" => some .health
  | _ => none

def Route.allows : Route → Method → Bool
  | .eval, .post => true
  | .eval, _ => false
  | _, .get | _, .head => true
  | _, _ => false

/-- The header that lists the methods of a route. -/
def Route.allow : Route → Header
  | .eval => ("allow", "POST")
  | _ => ("allow", "GET,HEAD")

def anyOrigin : Header := ("access-control-allow-origin", "*")

/-- The answer to a browser that asks whether it may make a request. -/
def preflight : Response :=
  ⟨200, [anyOrigin, ("access-control-allow-methods", "*"), ("access-control-allow-headers", "*")],
    []⟩

def plainText : String := "text/plain; charset=utf-8"

/-- The largest body that is read. -/
def bodyLimit : Nat := 2097152

/-- Evaluates the body of a request. -/
def evaluate (m : Machine) (s : Server) (body : Bytes) : Response :=
  if bodyLimit < body.length then
    .typed 413 plainText (Bytes.ofString "length limit exceeded")
  else
    match body.text? with
    | none => .typed 400 plainText (Bytes.ofString "the body is not valid UTF-8")
    | some source =>
      match s.evaluator.evaluate m source with
      | .error _ => .bare 500
      | .ok reply => .typed 200 "application/json" (Bytes.ofString reply.toJson.compact)

/-- The answer of a route to a method that it allows. -/
def serve (m : Machine) (s : Server) (r : Http.Request) : Route → Response
  | .eval => s.evaluate m r.body
  | .examples => .typed 200 "application/json" (Bytes.ofString s.catalog)
  | .health => .typed 200 plainText (Bytes.ofString "ok")

/-- Answers a request to a route. -/
def answerAt (m : Machine) (s : Server) (r : Http.Request) (route : Route) : Response :=
  if r.method = .options then preflight.withHeaders [route.allow]
  else if route.allows r.method then
    let response := (s.serve m r route).withHeaders [anyOrigin]
    if r.method = .head then response.withoutBody else response
  else ⟨405, [anyOrigin, route.allow], []⟩

/-- Answers a request to a path that is no route where there is no site. -/
def answerElsewhere (r : Http.Request) : Response :=
  if r.method = .options then preflight else ⟨404, [anyOrigin], []⟩

/-- Answers a request. -/
def answer (m : Machine) (fs : System) (s : Server) (r : Http.Request) : Response :=
  match route? (Http.Target.ofString r.target).path, s.site with
  | some route, _ => s.answerAt m r route
  | none, some base => Http.Site.answer fs base r
  | none, none => answerElsewhere r

end Server
end Scratchpad
