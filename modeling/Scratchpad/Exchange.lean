import Scratchpad.Session

/-!
# Sessions with requests in the open

An exchange is a session beside the requests it has made, numbered per kind from one. A request
waits until it is answered, once and in any order; the answer enters the queue of the session as the
completion of that very request. A dropped reply completes its request with a transport failure.
-/

namespace Scratchpad

/-- `evals` holds the ticket of every evaluation request in order, until it is answered; `fetches`
says of every catalog request whether it waits. -/
structure Exchange (σ : Type) where
  session : Session σ
  evals : List (Option Ticket)
  fetches : List Bool

namespace Exchange
variable {σ : Type}

def start (policy : Policy) (device : σ) : Exchange σ :=
  ⟨.start policy device, [], []⟩

/-- The outcome of a request whose reply was dropped. -/
def noReply {α : Type} : Outcome α :=
  .error (.transport "no reply")

def park (x : Exchange σ) : Request → Exchange σ
  | .evaluate t _ => { x with evals := x.evals ++ [some t] }
  | .fetchCatalog => { x with fetches := x.fetches ++ [true] }

/-- Goes on with a session and parks the requests that it made. -/
def resume (x : Exchange σ) (s : Session σ) (trace : Trace) : Exchange σ :=
  trace.requests.foldl park { x with session := s }

def dispatch (d : Device σ) (x : Exchange σ) (m : Message) : Exchange σ × Trace :=
  let (s, trace) := x.session.dispatch d m
  (x.resume s trace, trace)

def redraw (d : Device σ) (x : Exchange σ) : Exchange σ × Trace :=
  let (s, trace) := x.session.redraw d
  (x.resume s trace, trace)

def enqueue (x : Exchange σ) (i : Input) : Exchange σ :=
  { x with session := x.session.enqueue i }

def settle (d : Device σ) (x : Exchange σ) : Exchange σ × Trace × Option Bool :=
  let (s, trace, more) := x.session.settle d
  (x.resume s trace, trace, more)

/-- Answers the `n`-th evaluation request, if it waits. -/
def answerEval? (x : Exchange σ) (n : Nat) (outcome : Outcome Json) : Option (Exchange σ) :=
  if n = 0 then none
  else
    match x.evals[n - 1]? with
    | some (some t) =>
      some ({ x with evals := x.evals.set (n - 1) none }.enqueue
        (.message (.evalFinished t outcome)))
    | _ => none

/-- Answers the `n`-th catalog request, if it waits. -/
def answerFetch? (x : Exchange σ) (n : Nat) (outcome : Outcome (List Entry)) :
    Option (Exchange σ) :=
  if n = 0 then none
  else
    match x.fetches[n - 1]? with
    | some true =>
      some ({ x with fetches := x.fetches.set (n - 1) false }.enqueue
        (.message (.catalogLoaded outcome)))
    | _ => none

/-- Runs the session on the inputs of its queue and no others. The flag says whether it was
closed. -/
def drain (d : Device σ) (x : Exchange σ) : Exchange σ × Trace × Bool :=
  let s := x.session
  let (s, trace, closed) := Session.run d { s with queue := [] } (s.queue.map .input)
  (x.resume s trace, trace, closed)

end Exchange
end Scratchpad
