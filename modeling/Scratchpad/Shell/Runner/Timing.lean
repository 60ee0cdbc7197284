import Scratchpad.Shell.Builtins.Signals

/-!
# Runs in time

The programs that run others for a limited time, or with another claim to the machine, and what
they do to the state around a run.
-/

namespace Scratchpad.Shell

namespace Runner

open Tools (Span hint span?)

def quotedFailure (lead text : String) (e : Files.Error) : String :=
  lead ++ Quoting.value text ++ ": " ++ e.reason

/-- Reads the options of a program in front of the command that it runs. -/
def leading (tool : String) (forms : List OptionForm) (args : List String) :
    Except String (Options × List String) :=
  (Options.readFrom forms false none args).mapError fun f => hint tool f.message

/-! ## A limited time -/

/-- How long a program may run, which signal ends it then, how much later it is killed, whether its
own status is told even so, whether it has the terminal, and whether signals are told. -/
structure Limit where
  ms : Nat
  signal : Nat
  killAfterMs : Option Nat
  preserves : Bool
  isForeground : Bool
  tells : Bool
  command : List String

namespace Limit

/-- The milliseconds of a span; one without end is no limit, which nought stands for. -/
def milliseconds (text : String) : Except String Nat :=
  match span? text with
  | some (.lasts n) => .ok n
  | some .endless => .ok 0
  | none => .error (hint "timeout" ("invalid time interval " ++ Quoting.value text))

/-- The signal that is named with or without `SIG` in front, or by its number. -/
def signalOf (text : String) : Except String Nat :=
  match Builtins.signal? true false text.toList with
  | some n => .ok n
  | none => .error (hint "timeout" (Quoting.value text ++ ": invalid signal"))

def ofArgs (args : List String) : Except String Limit := do
  let (found, rest) ← leading "timeout" [.valued 'k' "kill-after", .valued 's' "signal",
    .longFlag "foreground", .longFlag "preserve-status", .flag 'v' "verbose"] args
  let mut signal := 15
  let mut killAfterMs := none
  for (name, value) in found do
    if name = "signal" then signal ← signalOf value
    if name = "kill-after" then killAfterMs := some (← milliseconds value)
  match rest with
  | time :: program :: more =>
    return {
      ms := ← milliseconds time
      signal
      killAfterMs := killAfterMs.filter (· ≠ 0)
      preserves := found.has "preserve-status"
      isForeground := found.has "foreground"
      tells := found.has "verbose"
      command := program :: more }
  | _ => throw "Try 'timeout --help' for more information."

/-- When the signal comes to a program that starts at some time. -/
def alarm? (l : Limit) (startMs : Nat) : Option (Nat × Nat) :=
  if l.ms = 0 || l.signal = 0 then none else some (startMs + l.ms, l.signal)

end Limit
end Runner

namespace State

/-- A complaint of a program, and its exit code. -/
def fails (st : State) (text : String) (code : Nat) : State :=
  (st.write 2 (Bytes.ofString (text ++ "\n"))).withStatus code

/-- A run that has no more time after some moment: what it did later did not happen. -/
def cutAt (st : State) (endMs status : Nat) : State :=
  { st with
    fate := .running
    status
    elapsedMs := endMs
    log := st.log.filter fun w => w.atMs < endMs }

/-- A run that is killed. -/
def killedBy (st : State) (l : Runner.Limit) : State :=
  let st := st.withStatus 137
  if l.isForeground then st else { st with fate := .signalled 9 }

/-- Tells which signal is sent. -/
def tellSignal (st : State) (l : Runner.Limit) (signal : Nat) : State :=
  if l.tells then
    st.write 2 (Bytes.ofString ("timeout: sending signal " ++ Builtins.signalName false signal ++
      " to command " ++ Quoting.value (l.command.headD "") ++ "\n"))
  else st

/-- The end of a run that was given some time. A program that heeds the signal or defies it goes on
until it ends or is killed; any other is cut short. -/
def within (st before : State) (l : Runner.Limit) : State :=
  let outlives := st.defied || [0, 17, 18].contains l.signal
  let st := { st with alarm := before.alarm, defied := before.defied }
  let endMs := before.elapsedMs + l.ms
  let isEndless := st.fate = .stuck []
  let isFlowing := st.fate matches .stuck _ && !isEndless
  let lasts (ms : Nat) : Bool := isEndless || ms ≤ st.elapsedMs
  if l.ms = 0 || isFlowing || !lasts endMs then st
  else if !outlives then
    if l.signal = 9 then ((st.cutAt endMs 0).tellSignal l 9).killedBy l
    else (st.cutAt endMs (if l.preserves then 128 + l.signal else 124)).tellSignal l l.signal
  else
    match l.killAfterMs.filter fun more => lasts (endMs + more) with
    | some more =>
      (((st.cutAt (endMs + more) 0).tellSignal l l.signal).tellSignal l 9).killedBy l
    | none =>
      if isEndless then st
      else
        let st := st.tellSignal l l.signal
        if l.preserves then st else { st with fate := .running, status := 124 }

end State

namespace Runner

open Tools (hint)

/-! ## Other claims -/

/-- How nice a program is to others, and the program; without one the niceness is shown. -/
def niceArgs (args : List String) : Except String (Option Int × List String) := do
  let args := args.takeWhile isPlain |>.map spelled |>.append (args.dropWhile isPlain)
  let (found, rest) ← leading "nice" [.valued 'n' "adjustment"] args
  let amount ← match found.value? "adjustment" with
    | none => pure none
    | some text =>
      match Tools.integer? text with
      | some n => pure (some n)
      | none => throw ("nice: invalid adjustment " ++ Quoting.value text)
  if rest = [] && amount.isSome then
    throw (hint "nice" "a command must be given with an adjustment")
  return (amount, rest)
where
  /-- Is an argument a number behind a dash? -/
  isPlain (arg : String) : Bool :=
    match arg.toList with
    | '-' :: '-' :: c :: _ | '-' :: '+' :: c :: _ | '-' :: c :: _ => c.isDigit
    | _ => false
  spelled (arg : String) : String :=
    "-n" ++ String.ofList (arg.toList.drop 1)

/-- The mode of a buffer. -/
def isBufferMode (text : String) : Bool :=
  text = "L" || (Tools.count? text).isSome

/-- The command behind the modes of its buffers. -/
def stdbufArgs (args : List String) : Except String (List String) := do
  let (found, rest) ← leading "stdbuf" [.valued 'i' "input", .valued 'o' "output",
    .valued 'e' "error"] args
  for (name, value) in found do
    if name = "input" && value = "L" then
      throw (hint "stdbuf" "line buffering stdin is meaningless")
    if !isBufferMode value then throw ("stdbuf: invalid mode " ++ Quoting.value value)
  if rest = [] then throw (hint "stdbuf" "missing operand")
  if found = [] then throw (hint "stdbuf" "you must specify a buffering mode option")
  return rest

def nohupArgs (args : List String) : Except String (List String) := do
  let (_, rest) ← leading "nohup" [] args
  if rest = [] then throw (hint "nohup" "missing operand")
  return rest

def setsidArgs (args : List String) : Except String (List String) := do
  let (_, rest) ← leading "setsid" [.flag 'c' "ctty", .flag 'f' "fork", .flag 'w' "wait"] args
  if rest = [] then throw (hint "setsid" "no command specified")
  return rest

end Runner
end Scratchpad.Shell
