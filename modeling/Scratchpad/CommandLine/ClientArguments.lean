import Scratchpad.CommandLine.Argument
import Scratchpad.Files.Path

/-!
# Arguments of the client

A command line names one task. The options for the settings file and the server may stand before the
task and after it; what stands after it counts.
-/

namespace Scratchpad.CommandLine

open Files (Path)

/-- The options that every task takes. -/
structure Shared where
  config : Option String
  server : Option String
deriving DecidableEq, Repr

inductive Task
  | init (force : Bool)
  | examples
  | eval (file : Option Path)
  | session
deriving DecidableEq, Repr

structure ClientArguments where
  config : Path
  server : Option String
  task : Task
deriving DecidableEq, Repr

namespace ClientArguments

inductive TaskName
  | init
  | examples
  | eval
  | session
  | help
deriving DecidableEq, Repr

def TaskName.ofString? : String → Option TaskName
  | "init" => some .init
  | "examples" => some .examples
  | "eval" => some .eval
  | "session" => some .session
  | "help" => some .help
  | _ => none

inductive SharedOption
  | config
  | server
deriving DecidableEq, Repr

def SharedOption.ofString? : String → Option SharedOption
  | "config" => some .config
  | "server" => some .server
  | _ => none

/-- An option that has been read but not checked, with its value if that has been read too. -/
structure Pending where
  name : SharedOption
  value : Option String
deriving DecidableEq, Repr

/-- The shared options before the task or after it. The last of them is checked when the next
option comes, or at the end. -/
structure Level where
  options : Shared
  pending : Option Pending
deriving DecidableEq, Repr

/-- What has been read so far. -/
structure Draft where
  outer : Level
  inner : Level
  name : Option TaskName
  force : Bool
  file : Option String
  topics : List String
  onlyPlain : Bool

def Level.empty : Level :=
  ⟨⟨none, none⟩, none⟩

def Draft.empty : Draft :=
  ⟨.empty, .empty, none, false, none, [], false⟩

/-! ## Help

The options that come first in their group stand first, those of one rank by their names. -/

def version : String := "playground 0.1.0\n"

def configHelp : String :=
  "      --config <CONFIG>  TOML config file (defaults apply when missing) " ++
  "[default: playground.toml]\n"

def serverHelp : String :=
  "      --server <SERVER>  Server root; sets both endpoints to `<server>/eval` and " ++
  "`<server>/examples`\n"

def helpHelp : String :=
  "  -h, --help             Print help\n"

/-- The options of every task. -/
def sharedHelp : String :=
  configHelp ++ serverHelp ++ helpHelp

def about : TaskName → String
  | .init => "Write the effective configuration (defaults plus `--server`) to `--config`"
  | .examples => "Print the names of the example catalog in server order"
  | .eval => "Evaluate FILE (or stdin) once and print the result"
  | .session => "Interactive session: lines edit the text, `:submit`, `:select NAME`, `:clear`, " ++
    "`:show`, `:quit` control it"
  | .help => "Print this message or the help of the given subcommand(s)"

def help : Option TaskName → String
  | none =>
    "Client for the try-it playground\n\nUsage: playground [OPTIONS] <COMMAND>\n\nCommands:\n" ++
    "  init      " ++ about .init ++ "\n  examples  " ++ about .examples ++
    "\n  eval      " ++ about .eval ++ "\n  session   " ++ about .session ++
    "\n  help      " ++ about .help ++ "\n\nOptions:\n" ++ sharedHelp ++
    "  -V, --version          Print version\n"
  | some .init =>
    about .init ++ "\n\nUsage: playground init [OPTIONS]\n\nOptions:\n" ++
    configHelp ++ "  -f, --force            Overwrite an existing file\n" ++ serverHelp ++
    helpHelp
  | some .examples =>
    about .examples ++ "\n\nUsage: playground examples [OPTIONS]\n\nOptions:\n" ++ sharedHelp
  | some .eval =>
    about .eval ++ "\n\nUsage: playground eval [OPTIONS] [FILE]\n\nArguments:\n  [FILE]  \n\n" ++
    "Options:\n" ++ sharedHelp
  | some .session =>
    about .session ++ "\n\nUsage: playground session [OPTIONS]\n\nOptions:\n" ++ sharedHelp
  | some .help =>
    about .help ++ "\n\nUsage: playground help [COMMAND]...\n\nArguments:\n" ++
    "  [COMMAND]...  Print help for the subcommand(s)\n"

/-! ## Reading -/

/-- Gives a shared option its value. -/
def Level.give (l : Level) (value : String) : SharedOption → Except Stop Level
  | .config => do
    return ⟨{ l.options with config := ← setOnce l.options.config (← nonEmpty value) }, none⟩
  | .server => do return ⟨{ l.options with server := ← setOnce l.options.server value }, none⟩

/-- Checks the option that is pending; one without a value is an error. -/
def Level.settle (l : Level) : Except Stop Level :=
  match l.pending with
  | none => .ok l
  | some ⟨_, none⟩ => .error .usage
  | some ⟨o, some value⟩ => l.give value o

/-- Takes a shared option, with the value that is attached to it if there is one. -/
def Level.take (l : Level) (o : SharedOption) (value : Option String) : Except Stop Level := do
  let l ← l.settle
  match value with
  | some value => l.give value o
  | none => return { l with pending := some ⟨o, none⟩ }

/-- The option that the next argument is the value of. -/
def Level.waiting? (l : Level) : Option SharedOption :=
  match l.pending with
  | some ⟨o, none⟩ => some o
  | _ => none

/-- The level that arguments belong to now. -/
def Draft.level (d : Draft) : Level :=
  if d.name.isSome then d.inner else d.outer

def Draft.withLevel (d : Draft) (l : Level) : Draft :=
  if d.name.isSome then { d with inner := l } else { d with outer := l }

def Draft.settle (d : Draft) : Except Stop Draft := do
  return d.withLevel (← d.level.settle)

def Draft.setForce (d : Draft) : Except Stop Draft :=
  if d.name = some .init ∧ !d.force then .ok { d with force := true } else .error .usage

/-- Takes an argument that is neither an option nor the value of one. -/
def Draft.plain (d : Draft) (text : String) : Except Stop Draft := do
  match d.name with
  | none =>
    match TaskName.ofString? text, d.onlyPlain with
    | some name, false => return { d with name := some name }
    | _, _ => throw .usage
  | some .eval =>
    let d ← d.settle
    return { d with file := ← setOnce d.file (← nonEmpty text) }
  | some _ => throw .usage

def Draft.letter (d : Draft) (c : Char) : Except Stop Draft := do
  let d ← d.settle
  match c with
  | 'f' => d.setForce
  | 'h' => throw (.tells (help d.name))
  | 'V' => if d.name.isNone then throw (.tells version) else throw .usage
  | _ => throw .usage

/-- Takes the next argument. After `help` every argument is a topic, whatever it looks like. -/
def Draft.step (d : Draft) (text : String) : Except Stop Draft :=
  if d.name = some .help then .ok { d with topics := d.topics ++ [text] }
  else if d.onlyPlain then d.plain text
  else
    match d.level.waiting?, Argument.ofString text with
    | some o, .plain value => .ok (d.withLevel { d.level with pending := some ⟨o, some value⟩ })
    | some _, .dashes => .error .usage
    | none, .dashes => .ok { d with onlyPlain := true }
    | none, .plain text => d.plain text
    | _, .short letters => letters.foldlM Draft.letter d
    | _, .long "help" none => d.letter 'h'
    | _, .long "version" none => d.letter 'V'
    | _, .long "force" none => d.letter 'f'
    | _, .long name value =>
      match SharedOption.ofString? name with
      | some o => do return d.withLevel (← d.level.take o value)
      | none => .error .usage

/-- The help that is asked for: of the client, or of one task. -/
def helpOn : List String → Except Stop ClientArguments
  | [] => .error (.tells (help none))
  | [topic] =>
    match TaskName.ofString? topic with
    | some name => .error (.tells (help (some name)))
    | none => .error .usage
  | _ => .error .usage

def Draft.finish (d : Draft) : Except Stop ClientArguments := do
  let arguments (task : Task) : Except Stop ClientArguments := do
    let inner := (← d.inner.settle).options
    let outer := (← d.outer.settle).options
    let config := (inner.config.or outer.config).getD "playground.toml"
    return ⟨Path.ofString config, inner.server.or outer.server, task⟩
  match d.name with
  | none => throw .usage
  | some .help => helpOn d.topics
  | some .init => arguments (.init d.force)
  | some .examples => arguments .examples
  | some .eval => arguments (.eval (d.file.map Path.ofString))
  | some .session => arguments .session

def parse (args : List String) : Except Stop ClientArguments := do
  (← args.foldlM Draft.step .empty).finish

end ClientArguments
end Scratchpad.CommandLine
