import Scratchpad.CommandLine.ServerArguments
import Scratchpad.Http.Address
import Scratchpad.Server

/-!
# Starts of the server

A server starts if its evaluator is usable, its examples can be read, its address is one, and nobody
listens there yet. The first of these that is not so is the error.
-/

namespace Scratchpad.CommandLine

open Files (System)
open Http (Address)

inductive StartError
  | server (e : Server.StartError)
  | address
  | listen (e : Http.ListenError)
deriving DecidableEq, Repr

/-- What is said of an error, from the outermost context to the cause. -/
def StartError.causes : StartError → List String
  | .server (.examples u) => "load examples" :: u.causes
  | .server e => e.causes
  | .address => ["invalid socket address syntax"]
  | .listen e => [e.text]

/-- The report on an error; several causes below it are numbered. -/
def StartError.report (e : StartError) : Report :=
  .complained Report.failed ("Error: " ++
    match e.causes with
    | [] => "\n"
    | [first] => first ++ "\n"
    | [first, cause] => first ++ "\n\nCaused by:\n    " ++ cause ++ "\n"
    | first :: causes =>
      first ++ "\n\nCaused by:\n" ++ String.join (causes.mapIdx fun i cause =>
        "    " ++ i.repr ++ ": " ++ cause ++ "\n"))

/-- Starts a server where others listen already. -/
def start (fs : System) (taken : List Address) (a : ServerArguments) :
    Except StartError (Server × Address) := do
  let server ← (Server.load fs a.evaluator a.examples a.site).1.mapError .server
  match Http.Host.ofString? a.bind with
  | none => throw .address
  | some host =>
    let address : Address := ⟨host, a.port⟩
    match address.listenError? taken with
    | some e => throw (.listen e)
    | none => return (server, address)

/-- The start of a server from its command line: the server and its address, or a report. -/
def startServer (fs : System) (taken : List Address) (args : List String) :
    Except Report (Server × Address) :=
  match ServerArguments.parse args with
  | .error stop => .error stop.report
  | .ok a => (start fs taken a).mapError StartError.report

end Scratchpad.CommandLine
