import Scratchpad.CommandLine.ClientArguments
import Scratchpad.Dialogue
import Scratchpad.Settings.Store

/-!
# Runs of the client

A run resolves the settings and carries out one task. Its exit code is 0 for success, 1 for a
failure on the way, and 2 where the settings are not usable or a file is in the way. Only a success
writes to the output.
-/

namespace Scratchpad.CommandLine

open Files (Path System)
open Http (Network)

/-- What a run finds around it. -/
structure Surroundings where
  files : System
  net : Network
  input : Bytes

/-- The causes of an error in one line. -/
def chain (causes : List String) : String :=
  ": ".intercalate causes ++ "\n"

namespace ClientRun

/-- Writes the settings that are in force. -/
def init (fs : System) (path : Path) (force : Bool) (s : Settings) : System × Report :=
  if fs.pathExists path && !force then
    (fs, .complained Report.wrong
      (path.display ++ " already exists (use --force to overwrite)\n"))
  else
    match Settings.store fs path s with
    | (fs, .ok ()) => (fs, .said (Bytes.ofString ("wrote " ++ path.display ++ "\n")))
    | (fs, .error e) => (fs, .complained Report.failed (chain e.causes))

/-- Prints the names of the examples, one line each. -/
def examples (net : Network) (c : Client) : Report :=
  match c.fetchExamples net with
  | .ok entries => .said (Bytes.ofString (String.join (entries.map fun e => e.name ++ "\n")))
  | .error f => .complained Report.failed (chain ["fetch example catalog", f.message])

/-- The text to evaluate, or what is wrong with its source. -/
def source (around : Surroundings) : Option Path → Except (List String) String
  | some path => (around.files.readText path).mapError fun e => ["read " ++ path.display, e.text]
  | none =>
    match around.input.text?, Text.Utf8.fault? around.input with
    | some text, _ => .ok text
    | none, fault => .error ("read stdin" :: (fault.map Text.Utf8.Fault.text).toList)

/-- Evaluates a text once and prints the result; a failed request is not reported here. -/
def eval (net : Network) (c : Client) (text : String) : Report :=
  match (Dialogue.mk c net).evaluateOnce text with
  | some v => .said (Bytes.ofString (v.display ++ "\n"))
  | none => ⟨Report.failed, [], []⟩

/-- Runs a session on the lines of the input. -/
def session (net : Network) (c : Client) (input : Bytes) : Report :=
  let s := (Dialogue.mk c net).run Tank.device .unlimited (inputLines input)
  .said s.screen.output

/-- Carries out a task that makes requests. -/
def request (around : Surroundings) (c : Client) : Task → Report
  | .eval file =>
    match source around file with
    | .ok text => eval around.net c text
    | .error causes => .complained Report.failed (chain causes)
  | .session => session around.net c around.input
  | _ => examples around.net c

def run (around : Surroundings) (a : ClientArguments) : System × Report :=
  match Settings.resolve around.files a.config a.server with
  | .error e => (around.files, .complained Report.wrong (chain e.causes))
  | .ok s =>
    match a.task with
    | .init force => init around.files a.config force s
    | task =>
      (around.files, match Client.ofSettings s with
        | .error f => .complained Report.failed (chain [f.message])
        | .ok c => request around c task)

end ClientRun

/-- The client from its command line. -/
def runClient (around : Surroundings) (args : List String) : System × Report :=
  match ClientArguments.parse args with
  | .error stop => (around.files, stop.report)
  | .ok a => ClientRun.run around a

end Scratchpad.CommandLine
