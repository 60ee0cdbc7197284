import Scratchpad.Capture
import Scratchpad.Json.Value

/-!
# Evaluators

An evaluator is a command that reads a snippet from its input and writes the result. Its reply is a
value when it succeeds, and otherwise an error whose message is the first of these that is not
empty: what it wrote to its error stream, what it wrote to its output, its exit status. An evaluator
that takes too long is stopped, which is an error too. Only a command that does not run at all gives
no reply.
-/

namespace Scratchpad

structure Evaluator where
  command : List String
  timeoutMs : Nat
  outputLimit : Nat
deriving DecidableEq, Repr

namespace Evaluator

/-- An evaluator with the usual bounds. -/
def ofCommand (command : List String) : Evaluator :=
  ⟨command, 10000, 1000000⟩

/-- Why an evaluator is not usable; of several faults the first one listed here is named. -/
inductive Fault
  | emptyCommand
  | zeroTimeout
  | zeroOutputLimit
deriving DecidableEq, Repr

def Fault.message : Fault → String
  | .emptyCommand => "evaluator command must be non-empty"
  | .zeroTimeout => "evaluation timeout must be > 0"
  | .zeroOutputLimit => "output limit must be > 0"

def fault? (e : Evaluator) : Option Fault :=
  if e.command.head?.all Text.isBlankText then some .emptyCommand
  else if e.timeoutMs = 0 then some .zeroTimeout
  else if e.outputLimit = 0 then some .zeroOutputLimit
  else none

def validate (e : Evaluator) : Except Fault Unit :=
  match e.fault? with
  | some f => .error f
  | none => .ok ()

def invocation (e : Evaluator) : Invocation :=
  ⟨e.command.headD "", e.command.tail⟩

inductive Reply
  | value (text : String)
  | error (message : String)
deriving DecidableEq, Repr

def Reply.toJson : Reply → Json
  | .value text => .string text
  | .error message => .object [("error", .string message)]

/-- Why there is no reply. -/
inductive RunError
  | spawn (program : String) (reason : Process.Refusal)
  | stdin (reason : String)
  | stdout (reason : String)
  | stderr (reason : String)
deriving DecidableEq, Repr

/-- What is said of an error, from the outermost context to the cause. -/
def RunError.causes : RunError → List String
  | .spawn program reason => ["spawn evaluator " ++ program, reason.text]
  | .stdin reason => ["write evaluator stdin", reason]
  | .stdout reason => ["join stdout", "read output", reason]
  | .stderr reason => ["join stderr", "read output", reason]

def timeoutMessage : String := "evaluation exceeded the allowed execution time"

def statusMessage (s : Process.Status) : String :=
  "evaluator exited with status " ++ s.display

/-- The reply to a process that ended in time, from the two captures. -/
def replyOf (status : Process.Status) (stdout stderr : Capture) : Reply :=
  if status.success then .value stdout.render
  else if stderr.render ≠ "" then .error stderr.render
  else if stdout.render ≠ "" then .error stdout.render
  else .error (statusMessage status)

/-- The reply to a process. -/
def reply (e : Evaluator) : Process.Course → Except RunError Reply
  | .runsOn => .ok (.error timeoutMessage)
  | .ends afterMs status stdout stderr stdin =>
    if e.timeoutMs ≤ afterMs then .ok (.error timeoutMessage)
    else do
      stdin.written.mapError .stdin
      let stdout ← (Capture.read e.outputLimit stdout).mapError .stdout
      let stderr ← (Capture.read e.outputLimit stderr).mapError .stderr
      return replyOf status stdout stderr

/-- Runs the evaluator on a snippet. -/
def evaluate (e : Evaluator) (m : Machine) (source : String) : Except RunError Reply :=
  match m.start e.invocation (Bytes.ofString source) with
  | .error reason => .error (.spawn e.invocation.program reason)
  | .ok course => e.reply course

end Evaluator
end Scratchpad
