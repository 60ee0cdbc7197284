import Scratchpad.Client
import Scratchpad.Session

/-!
# Dialogues

A dialogue is a session whose requests a client makes, each of them answered before the next input
is applied. It ends with the first `quit`, or where the lines end.
-/

namespace Scratchpad

/-- How a dialogue gets its answers. -/
structure Dialogue where
  client : Client
  net : Http.Network

namespace Dialogue
variable {σ : Type}

/-- The message that answers a request. -/
def completion (g : Dialogue) : Request → Message
  | .evaluate t text => .evalFinished t (g.client.evaluate g.net text)
  | .fetchCatalog => .catalogLoaded (g.client.fetchExamples g.net)

/-- Queues the answers to some requests and applies them. -/
def answer (d : Device σ) (g : Dialogue) (s : Session σ) (requests : List Request) : Session σ :=
  requests.foldl (fun s r => ((s.enqueue (.message (g.completion r))).settle d).1) s

/-- Applies an input and answers the requests that it makes. -/
def apply (d : Device σ) (g : Dialogue) (s : Session σ) (i : Input) : Session σ :=
  let (s, trace) := s.apply d i
  g.answer d s trace.requests

/-- Applies the commands of some lines, up to the first `quit`, and closes the session. -/
def converse (d : Device σ) (g : Dialogue) (s : Session σ) : List String → Session σ
  | [] => (s.close d).1
  | line :: rest =>
    match Command.parse line with
    | .quit => (s.close d).1
    | command => converse d g (g.apply d s (.command command)) rest

/-- A whole session on some lines: it mounts the catalog, draws, and applies the lines. -/
def run (d : Device σ) (g : Dialogue) (device : σ) (lines : List String) : Session σ :=
  let s := Session.start g.client.settings.responsePolicy device
  let s := g.apply d s (.message .catalogMounted)
  g.converse d (s.redraw d).1 lines

/-- A device on which nothing is shown. -/
def silent : Device Unit where
  write _ bytes := ((), .bytes bytes.length)
  flush _ := ((), none)

/-- The result of evaluating one text in a session of its own. -/
def evaluateOnce (g : Dialogue) (text : String) : Option Json :=
  let s := Session.start g.client.settings.responsePolicy ()
  let (s, _) := s.dispatch silent (.textChanged text)
  let (s, trace) := s.dispatch silent .submit
  (g.answer silent s trace.requests).pad.editor.result

end Dialogue

/-- The lines of an input, without their ends; bytes that are no text end the input. -/
def inputLines (input : Bytes) : List String :=
  let lines := input.splitOn 0x0A
  let lines := if lines.getLast? = some [] then lines.dropLast else lines
  let texts := lines.map fun line =>
    Bytes.text? (if line.getLast? = some 0x0D then line.dropLast else line)
  (texts.takeWhile Option.isSome).filterMap id

end Scratchpad
