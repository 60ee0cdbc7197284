import Scratchpad.Files.System

/-!
# Processes

A process is known by what it does with its input: how long it runs, how it ends, what it writes to
its two output streams, and how its input could be written. A stream is read by attempts, each of
which brings a chunk of bytes, is interrupted or fails. A machine says for every command and input
what process starts.
-/

namespace Scratchpad

namespace Process

/-- How a process ended: with an exit code, or by a signal. -/
inductive Status
  | exited (code : Nat)
  | signalled
deriving DecidableEq, Repr

def Status.success (s : Status) : Bool :=
  s = .exited 0

/-- The exit code as an option is printed. -/
def Status.display : Status → String
  | .exited code => "Some(" ++ code.repr ++ ")"
  | .signalled => "None"

/-- What one attempt to read from a stream brings. No chunk is empty: the end of the stream is the
end of the list of attempts. -/
inductive Attempt
  | chunk (bytes : Bytes)
  | interrupted
  | failed (reason : String)
deriving DecidableEq, Repr

/-- The most that one attempt brings. -/
def chunkSize : Nat := 8192

/-- The attempts that read some bytes in chunks of full size; `fuel` bounds their number. -/
def attemptsWithin : Nat → Bytes → List Attempt
  | 0, _ => []
  | _, [] => []
  | fuel + 1, bytes => .chunk (bytes.take chunkSize) :: attemptsWithin fuel (bytes.drop chunkSize)

def attempts (bytes : Bytes) : List Attempt :=
  attemptsWithin (bytes.length / chunkSize + 1) bytes

/-- What becomes of the input of a process: all of it is written, and what is not read stays in the
pipe; or the pipe is closed when some bytes of it are taken; or writing fails. -/
inductive Uptake
  | complete
  | closed (taken : Nat)
  | failed (reason : String)
deriving DecidableEq, Repr

/-- A process need not take all of its input. -/
def Uptake.written : Uptake → Except String Unit
  | .complete => .ok ()
  | .closed _ => .ok ()
  | .failed reason => .error reason

/-- A process from its start: one that ends after some milliseconds, or one that does not end. -/
inductive Course
  | ends (afterMs : Nat) (status : Status) (stdout stderr : List Attempt)
      (stdin : Uptake := .complete)
  | runsOn
deriving Repr

/-- Why a command does not start. -/
inductive Refusal
  | system (e : Files.Error)
  | nulInCommand
deriving DecidableEq, Repr

def Refusal.text : Refusal → String
  | .system e => e.text
  | .nulInCommand => "nul byte found in provided data"

end Process

/-- A program and its arguments. -/
structure Invocation where
  program : String
  args : List String
deriving DecidableEq, Repr

/-- What starts when a command is invoked with an input. -/
structure Machine where
  start : Invocation → (input : Bytes) → Except Process.Refusal Process.Course

end Scratchpad
