import Scratchpad.Command
import Scratchpad.Event
import Scratchpad.Screen

/-!
# Sessions

A session owns a pad, a screen and a queue of inputs: messages and line commands. Inputs are applied
one at a time, in the order of the queue. Whatever is applied, the session reports in a `Trace` the
requests it makes, how often it draws and what it logs; the completions of its requests come back
through the same queue.
-/

namespace Scratchpad

inductive Input
  | message (m : Message)
  | command (c : Command)

def Input.isQuit : Input → Bool
  | .command .quit => true
  | _ => false

structure Trace where
  requests : List Request
  draws : Nat
  log : List Event
deriving DecidableEq, Repr

namespace Trace

def nothing : Trace := ⟨[], 0, []⟩

def logging (e : Event) : Trace := ⟨[], 0, [e]⟩

def append (a b : Trace) : Trace :=
  ⟨a.requests ++ b.requests, a.draws + b.draws, a.log ++ b.log⟩

instance : Append Trace := ⟨append⟩

end Trace

structure Session (σ : Type) where
  pad : Pad
  screen : Screen σ
  queue : List Input

namespace Session
variable {σ : Type}

def start (policy : Policy) (device : σ) : Session σ :=
  ⟨.empty policy, .blank device, []⟩

/-- Draws the frame of the pad as it stands. -/
def redraw (d : Device σ) (s : Session σ) : Session σ × Trace :=
  let (screen, error) := s.screen.draw d (.ofPad s.pad)
  ({ s with screen }, ⟨[], 1, (error.map .drawFailed).toList⟩)

/-- Applies one message, and redraws if it changed anything. -/
def dispatch (d : Device σ) (s : Session σ) (m : Message) : Session σ × Trace :=
  let (pad, t) := s.pad.update m
  let trace : Trace :=
    ⟨t.requests, 0, (t.note.map .ofNote).toList ++ t.requests.map .ofRequest⟩
  let s := { s with pad }
  if t.changed then
    let (s, drawn) := s.redraw d
    (s, trace ++ drawn)
  else (s, trace)

def mount (d : Device σ) (s : Session σ) : Session σ × Trace :=
  s.dispatch d .catalogMounted

/-- Applies a command other than `quit`, which changes nothing by itself. -/
def applyCommand (d : Device σ) (s : Session σ) : Command → Session σ × Trace
  | .append line => s.dispatch d (.textChanged (s.pad.editor.text ++ line ++ "\n"))
  | .clear => s.dispatch d (.textChanged "")
  | .submit => s.dispatch d .submit
  | .select name =>
    match s.pad.catalog.find? name with
    | some e => s.dispatch d (.selectionChanged e.value)
    | none => (s, .logging (.noSuchExample name))
  | .show => redraw d { s with screen := s.screen.invalidate }
  | .quit => (s, .nothing)

def apply (d : Device σ) (s : Session σ) : Input → Session σ × Trace
  | .message m => s.dispatch d m
  | .command c => s.applyCommand d c

def enqueue (s : Session σ) (i : Input) : Session σ :=
  { s with queue := s.queue ++ [i] }

/-- Applies the oldest input of the queue, if there is one. The flag is `false` when that was the
`quit` command. -/
def settle (d : Device σ) (s : Session σ) : Session σ × Trace × Option Bool :=
  match s.queue with
  | [] => (s, .nothing, none)
  | i :: queue =>
    let (s, trace) := apply d { s with queue } i
    (s, trace, some !i.isQuit)

/-- What drives a running session: its timer, or the next input. -/
inductive Turn
  | tick
  | input (i : Input)

/-- What a running session reports when it starts. -/
def started (s : Session σ) (redrawMs : Nat) : Trace :=
  .logging (.sessionStarted s.pad.editor.policy redrawMs)

/-- The last redraw of a running session, and its closing report. -/
def close (d : Device σ) (s : Session σ) : Session σ × Trace :=
  let (s, drawn) := s.redraw d
  (s, drawn ++ .logging (.sessionEnded s.pad.editor.inFlight.length))

/-- Takes the turns up to the first `quit`, which closes the session; the turns after it are left
over. The flag says whether the session was closed. -/
def run (d : Device σ) (s : Session σ) : List Turn → Session σ × Trace × Bool
  | [] => (s, .nothing, false)
  | .tick :: rest =>
    let (s, drawn) := s.redraw d
    let (s, trace, closed) := run d s rest
    (s, drawn ++ trace, closed)
  | .input i :: rest =>
    if i.isQuit then
      let (s, trace) := s.close d
      (s, trace, true)
    else
      let (s, here) := s.apply d i
      let (s, trace, closed) := run d s rest
      (s, here ++ trace, closed)

end Session
end Scratchpad
