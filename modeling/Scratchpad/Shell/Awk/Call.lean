import Scratchpad.Shell.Awk.Run
import Scratchpad.Shell.Awk.Syntax

/-!
# Calls of the record language

What a program is told by its arguments: its text or the files that it is in, the variables that are
set beforehand, and the operands, which it sees itself. A run leaves the state of the shell that it
was started in as its deeds have made it.
-/

namespace Scratchpad.Shell.Awk

/-- What the arguments ask for. -/
structure Request where
  files : List String
  settings : List Bytes
  separator : Option Bytes
  operands : List String
  warnings : List String

inductive Call
  | run (r : Request)
  | usage
  | version
  | refused (text : String)

def usage : String :=
  "Usage: mawk [Options] [Program] [file ...]\n\n" ++
  "Program:\n" ++
  "    The -f option value is the name of a file containing program text.\n" ++
  "    If no -f option is given, a \"--\" ends option processing; the following\n" ++
  "    parameters are the program text.\n\n" ++
  "Options:\n" ++
  "    -f program-file  Program  text is read from file instead of from the\n" ++
  "                     command-line.  Multiple -f options are accepted.\n" ++
  "    -F value         sets the field separator, FS, to value.\n" ++
  "    -v var=value     assigns value to program variable var.\n" ++
  "    --               unambiguous end of options.\n\n" ++
  "    Implementation-specific options are prefixed with \"-W\".  They can be\n" ++
  "    abbreviated:\n\n" ++
  "    -W version       show version information and exit.\n" ++
  "    -W compat        pre-POSIX 2001.\n" ++
  "    -W dump          show assembler-like listing of program and exit.\n" ++
  "    -W help          show this message and exit.\n" ++
  "    -W interactive   set unbuffered output, line-buffered input.\n" ++
  "    -W exec file     use file as program as well as last option.\n" ++
  "    -W posix         stricter POSIX checking.\n" ++
  "    -W random=number set initial random seed.\n" ++
  "    -W sprintf=number adjust size of sprintf buffer.\n" ++
  "    -W usage         show this message and exit.\n"

def version : String :=
  "mawk 1.3.4 20200120\n\n" ++
  "random-funcs:       srandom/random\n" ++
  "regex-funcs:        internal\n" ++
  "compiled limits:\n" ++
  "sprintf buffer      8192\n" ++
  "maximum-integer     2147483647\n"

/-- What a word behind `-W` asks for at once, if it does. -/
def wish? (word : String) : Option Call :=
  let isShort (full : String) : Bool := word ≠ "" && full.startsWith word
  if isShort "version" then some .version
  else if isShort "help" || isShort "usage" then some .usage
  else none

/-- A request with a word behind `-W` that asks for nothing at once. -/
def Request.wishing (r : Request) (word : String) : Request :=
  let known := ["compat", "dump", "exec", "interactive", "posix", "random", "sprintf"]
  let name := (word.splitOn "=").headD ""
  if name ≠ "" && known.any (·.startsWith name) then r
  else { r with warnings := r.warnings ++ ["vacuous option: -W \"" ++ word ++ "\""] }

/-- Takes the value of an option. -/
def Request.take (r : Request) (option : Char) (value : String) : Except String Request :=
  match option with
  | 'F' => .ok { r with separator := some (Bytes.ofString value) }
  | 'f' => .ok { r with files := r.files ++ [value] }
  | _ =>
    if (setting? (Bytes.ofString value)).isSome then
      .ok { r with settings := r.settings ++ [Bytes.ofString value] }
    else .error ("improper assignment: -v " ++ value)

def takesValue (option : Char) : Bool :=
  option = 'F' || option = 'f' || option = 'v'

def Call.refusing : Except String Request → (Request → Call) → Call
  | .ok r, go => go r
  | .error text, _ => .refused text

/-- Reads the options in front of the operands; `option` is one whose value comes next. -/
def readArgs (r : Request) (option : Option Char) : List String → Call
  | [] =>
    match option with
    | some c => .refused ("option -" ++ String.singleton c ++ " lacks argument")
    | none => .run r
  | arg :: rest =>
    match option with
    | some 'W' => (wish? arg).getD (readArgs (r.wishing arg) none rest)
    | some c => .refusing (r.take c arg) fun r => readArgs r none rest
    | none =>
      match arg.toList with
      | ['-', '-'] => .run { r with operands := rest }
      | ['-', c] =>
        if takesValue c || c = 'W' then readArgs r (some c) rest
        else .refused ("not an option: " ++ arg)
      | '-' :: c :: cs =>
        if takesValue c then
          .refusing (r.take c (String.ofList cs)) fun r => readArgs r none rest
        else if c = 'W' then
          let word := String.ofList cs
          (wish? word).getD (readArgs (r.wishing word) none rest)
        else .refused ("not an option: " ++ arg)
      | _ => .run { r with operands := arg :: rest }

/-- The texts of a program, from its files or else the first operand, with the operands that are left
and the input that is left. -/
def programTexts (host : State) (r : Request) :
    Except String (List (Option String × Bytes) × List String × Flow) :=
  match r.files with
  | [] => .ok ([(none, Bytes.ofString (r.operands.headD ""))], r.operands.drop 1, host.input)
  | files => do
    let (texts, input) ← files.foldlM (fun (acc : List (Option String × Bytes) × Flow) name =>
      if name = "-" || name = "/dev/stdin" then .ok (acc.1 ++ [(some name, acc.2.first)], Flow.empty)
      else
        match Flow.named host.files host.input name with
        | .ok flow => .ok (acc.1 ++ [(some name, flow.first)], acc.2)
        | .error .isDirectory => .error ("read error (" ++ Files.Error.isDirectory.reason ++ ")")
        | .error e => .error ("cannot open " ++ name ++ " (" ++ e.reason ++ ")"))
      ([], host.input)
    return (texts, r.operands, input)

/-- The separator of fields that is asked for. -/
def Request.fieldSeparator (r : Request) : Bytes :=
  match r.separator with
  | some bytes => unescape (bytes.length + 1) bytes
  | none => [0x20]

/-- A separator of fields that is no pattern is at fault before anything is read. -/
def separatorFault (r : Request) : Except (List SyntaxFault) Unit :=
  let separator := r.fieldSeparator
  if separator.length < 2 then .ok ()
  else
    match patternOf separator with
    | .error fault => .error [⟨.pattern fault separator, ⟨none, 0⟩⟩]
    | .ok _ => .ok ()

/-- How many steps a program is given that reads an input without end. -/
def endlessLimit : Nat := 100000

/-- The desk at which a program starts. -/
def firstDesk (host : State) (r : Request) (operands : List String) : Desk :=
  let text (s : String) : Slot := .value (.text (Bytes.ofString s))
  let number (n : Int) : Slot := .value (.ofInt n)
  let argv := ("awk" :: operands).zipIdx.foldl (fun (t : Table) (arg, i) =>
    t.insert (.whole i) (.input (Bytes.ofString arg))) Table.empty
  let environ := host.environment.reverse.foldl (fun (t : Table) (name, value) =>
    t.insert (.text (ByteText.toBytes name)) (.input (ByteText.toBytes value))) Table.empty
  let globals : List (String × Slot) :=
    [("FS", .value (.text r.fieldSeparator)), ("OFS", text " "), ("ORS", text "\n"),
      ("RS", text "\n"), ("SUBSEP", text "\x1c"), ("CONVFMT", text "%.6g"), ("OFMT", text "%.6g"),
      ("NR", number 0), ("FNR", number 0), ("RSTART", number 0), ("RLENGTH", number (-1)),
      ("FILENAME", .value .unset), ("ARGC", number (operands.length + 1)), ("ARGV", .table 0),
      ("ENVIRON", .table 1)]
  { record := some .unset
    fields := some #[]
    separator := r.fieldSeparator
    globals := .ofList globals
    locals := []
    tables := .ofList [(0, argv), (1, environ)]
    nextTable := 2
    inside := []
    out := []
    opened := []
    sources := []
    input := none
    nextOperand := 1
    hasRead := false
    seed := .ofNat 1
    cells := 0
    taken := []
    steps := if host.input.isEndless then endlessLimit else stepLimit
    code := 0
    host }

/-- All that a program does. -/
def wholeRun (m : Manner) (r : Request) : Work Unit := do
  for arg in r.settings do
    match setting? arg with
    | some (name, value) => assign name value
    | none => pure ()
  modify ({ · with taken := m.program.taken })
  runAll m
  closeAll m

/-- Ends with a complaint. -/
def complain (host : State) (text : String) : State :=
  (host.write 2 (Bytes.ofString ("awk: " ++ text ++ "\n"))).withStatus 2

/-- Runs a program. One that never ends goes on writing what it wrote last. -/
def perform (shell : String → State → List Char → State) (r : Request) (host : State) : State :=
  if r.files = [] && r.operands = [] then (host.write 2 (Bytes.ofString usage)).withStatus 0
  else
    match programTexts host r with
    | .error text => complain host text
    | .ok (texts, operands, input) =>
      let settled := r.settings.filterMap fun arg => (setting? arg).map (·.1)
      match (do separatorFault r; Program.read texts settled) with
      | .error faults => complain host ("\nawk: ".intercalate (faults.map (·.message)))
      | .ok program =>
        let m : Manner := ⟨program, shell⟩
        match wholeRun m r (firstDesk { host with input } r operands) with
        | .ok _ d => d.host.withStatus d.code
        | .error stop d =>
          let onward := d.out.headD []
          let host := match flush d with
            | .ok _ d => d.host
            | .error _ d => d.host
          match stop with
          | .fault text => complain host text
          | .stuck =>
            match host.fate with
            | .stuck _ => host
            | _ =>
              { host with fate := .stuck (match host.sink? 1 with
                  | some (.pipe _) => onward
                  | _ => []) }
          | _ => host.withStatus d.code

/-- The tool, with a shell that runs scripts for it. -/
def run (shell : String → State → List Char → State) (host : State) (args : List String) : State :=
  match readArgs ⟨[], [], none, [], []⟩ none args with
  | .refused text => complain host text
  | .usage => (host.write 1 (Bytes.ofString usage)).withStatus 0
  | .version => (host.write 1 (Bytes.ofString version)).withStatus 0
  | .run r =>
    let warn (host : State) (text : String) : State := host.write 2 (Bytes.ofString ("awk: " ++ text ++ "\n"))
    perform shell r (r.warnings.foldl warn host)

end Scratchpad.Shell.Awk
