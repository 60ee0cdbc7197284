import Scratchpad.CommandLine.Argument
import Scratchpad.Evaluator
import Scratchpad.Files.Path

/-!
# Arguments of the server

The options come first. The first argument that is no known option begins the command of the
evaluator, which takes all arguments that are left, whatever they look like.
-/

namespace Scratchpad.CommandLine

open Files (Path)

structure ServerArguments where
  bind : String
  port : Nat
  examples : Path
  site : Option Path
  evaluator : Evaluator
deriving DecidableEq, Repr

namespace ServerArguments

inductive ServerOption
  | bind
  | port
  | examplesDir
  | uiDir
  | evalTimeoutSecs
  | outputLimitBytes
deriving DecidableEq, Repr

def ServerOption.ofString? : String → Option ServerOption
  | "bind" => some .bind
  | "port" => some .port
  | "examples-dir" => some .examplesDir
  | "ui-dir" => some .uiDir
  | "eval-timeout-secs" => some .evalTimeoutSecs
  | "output-limit-bytes" => some .outputLimitBytes
  | _ => none

/-- What has been read so far; `waiting` is the option whose value comes next. -/
structure Draft where
  bind : Option String
  port : Option Nat
  examples : Option String
  site : Option String
  timeoutSecs : Option Nat
  outputLimit : Option Nat
  command : List String
  waiting : Option ServerOption
  onlyPlain : Bool

def Draft.empty : Draft :=
  ⟨none, none, none, none, none, none, [], none, false⟩

def help : String :=
  "Serves the playground evaluator and example catalog\n\n" ++
  "Usage: playground-server [OPTIONS] <EVALUATOR>...\n\nArguments:\n" ++
  "  <EVALUATOR>...  Evaluator command; receives the snippet on stdin\n\nOptions:\n" ++
  "      --bind <BIND>\n          Address to bind the server to [default: 0.0.0.0]\n" ++
  "      --port <PORT>\n          Port to listen on [default: 8080]\n" ++
  "      --examples-dir <EXAMPLES_DIR>\n" ++
  "          Directory with one example snippet per file [default: public/examples]\n" ++
  "      --ui-dir <UI_DIR>\n          Directory containing UI static files\n" ++
  "      --eval-timeout-secs <EVAL_TIMEOUT_SECS>\n" ++
  "          Wall-clock limit for a single evaluation [default: 10]\n" ++
  "      --output-limit-bytes <OUTPUT_LIMIT_BYTES>\n" ++
  "          Bytes of evaluator output kept per stream [default: 1000000]\n" ++
  "  -h, --help\n          Print help\n"

/-- Gives an option its value. -/
def Draft.give (d : Draft) (o : ServerOption) (value : String) : Except Stop Draft := do
  let d := { d with waiting := none }
  match o with
  | .bind => return { d with bind := ← setOnce d.bind value }
  | .port => return { d with port := ← setOnce d.port (← signedNumber 65535 value) }
  | .examplesDir => return { d with examples := ← setOnce d.examples (← nonEmpty value) }
  | .uiDir => return { d with site := ← setOnce d.site (← nonEmpty value) }
  | .evalTimeoutSecs =>
    return { d with timeoutSecs := ← setOnce d.timeoutSecs (← number (UInt64.size - 1) value) }
  | .outputLimitBytes =>
    return { d with outputLimit := ← setOnce d.outputLimit (← number (UInt64.size - 1) value) }

def isKnown : Argument → Bool
  | .dashes => true
  | .long name _ => name = "help" || (ServerOption.ofString? name).isSome
  | .short letters => letters.all (· = 'h')
  | .plain _ => false

/-- Takes the next argument. -/
def Draft.step (d : Draft) (text : String) : Except Stop Draft :=
  let argument := Argument.ofString text
  if d.onlyPlain || !d.command.isEmpty then .ok { d with command := d.command ++ [text] }
  else
    match d.waiting, isKnown argument with
    | some _, true => .error .usage
    | some o, false => d.give o text
    | none, false => .ok { d with command := [text] }
    | none, true =>
      match argument with
      | .dashes => .ok { d with onlyPlain := true }
      | .long name value =>
        match ServerOption.ofString? name, value with
        | some o, some value => d.give o value
        | some o, none => .ok { d with waiting := some o }
        | none, none => .error (.tells help)
        | none, some _ => .error .usage
      | _ => .error (.tells help)

def Draft.finish (d : Draft) : Except Stop ServerArguments :=
  if d.waiting.isSome || d.command.isEmpty then .error .usage
  else
    let usual := Evaluator.ofCommand d.command
    .ok {
      bind := d.bind.getD "0.0.0.0"
      port := d.port.getD 8080
      examples := Path.ofString (d.examples.getD "public/examples")
      site := d.site.map Path.ofString
      evaluator := { usual with
        timeoutMs := (d.timeoutSecs.map (· * 1000)).getD usual.timeoutMs
        outputLimit := d.outputLimit.getD usual.outputLimit } }

def parse (args : List String) : Except Stop ServerArguments := do
  (← args.foldlM Draft.step .empty).finish

end ServerArguments
end Scratchpad.CommandLine
