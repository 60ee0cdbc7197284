import Scratchpad.Shell.Nesting

/-!
# Starting a shell

How the arguments of a shell are read, and the state in which it starts. It knows the variables that it
was given and some of its own.
-/

namespace Scratchpad.Shell

/-- How a shell is called: its options, whether its script is an operand, and the operands. -/
structure Call where
  options : List Char
  manners : List String
  isCommand : Bool
  operands : List (List Char)

namespace Call

def turn (c : Call) (on : Bool) (option : Char) : Call :=
  let others := c.options.filter (· ≠ option)
  { c with options := if on then option :: others else others }

/-- The letters of one argument. Some of them take the next argument: an option by its name, and in the
rich dialect a manner; the flag says that they do. -/
def letters (d : Dialect) (on : Bool) : List Char → Call → Except String (Call × List Char)
  | [], c => .ok (c, [])
  | letter :: rest, c =>
    let known := match d with
      | .plain => State.optionLetters ++ ['l']
      | .rich => State.richLetters ++ ['l', 'i', 'r', 'D']
    if letter = 'c' then letters d on rest { c with isCommand := true }
    else if letter = 'o' || (d = .rich && letter = 'O') then
      (letters d on rest c).map fun (c, waiting) => (c, letter :: waiting)
    else if known.contains letter then letters d on rest (c.turn on letter)
    else .error (match d with
      | .plain => "Illegal option -" ++ String.singleton letter
      | .rich => (if on then "-" else "+") ++ String.singleton letter ++ ": invalid option")

/-- Options of the rich dialect with long names that change nothing here. -/
def idleNames : List String :=
  ["norc", "noprofile", "login", "noediting", "posix", "restricted", "verbose", "debugger"]

/-- Takes the argument of one option. -/
def named (d : Dialect) (on : Bool) (letter : Char) (name : List Char) (c : Call) : Except String Call :=
  let text := ByteText.shown name
  if letter = 'O' then
    if Builtins.mannerNames.contains text then
      .ok { c with manners := if on then text :: c.manners else c.manners.filter (· ≠ text) }
    else .error (text ++ ": invalid shell option name")
  else
    let names := match d with
      | .plain => Builtins.optionNames
      | .rich => State.longOptions
    match names.lookup text with
    | some (some option) => .ok (c.turn on option)
    | some none => .ok c
    | none =>
      .error (match d with
        | .plain => "Illegal option -o " ++ text
        | .rich => text ++ ": invalid option name")

/-- Reads arguments; `waiting` are the options whose arguments come next. -/
def read (d : Dialect) : List (Bool × Char) → List (List Char) → Call → Except String Call
  | _, [], c => .ok c
  | (on, letter) :: waiting, name :: rest, c => do
    let c ← named d on letter name c
    read d waiting rest c
  | [], arg :: rest, c =>
    match arg with
    | ['-'] | ['-', '-'] => .ok { c with operands := rest }
    | '-' :: '-' :: name =>
      match d with
      | .plain => .error "Illegal option --"
      | .rich =>
        if idleNames.contains (ByteText.shown name) then read d [] rest c
        else .error (ByteText.shown arg ++ ": invalid option")
    | sign :: r =>
      if sign = '-' || sign = '+' then do
        let (c, waiting) ← letters d (sign = '-') r c
        read d (waiting.map fun letter => (sign = '-', letter)) rest c
      else .ok { c with operands := arg :: rest }
    | [] => .ok { c with operands := arg :: rest }

end Call

namespace State

/-- The variables that a shell of the plain dialect has of its own. -/
def ownVariables : List (String × String) :=
  [("IFS", " \t\n"), ("OPTIND", "1"), ("PS1", "# "), ("PS2", "> "), ("PS4", "+ "), ("PPID", "1")]

def ownRichVariables : List (String × String) :=
  [("IFS", " \t\n"), ("OPTIND", "1"), ("OPTERR", "1"), ("PS4", "+ "), ("PPID", "1"),
    ("BASH", "/usr/bin/bash"), ("BASH_VERSION", "5.2.21(1)-release"), ("EUID", "0"), ("UID", "0"),
    ("HOSTTYPE", "x86_64"), ("MACHTYPE", "x86_64-pc-linux-gnu"), ("OSTYPE", "linux-gnu"),
    ("TERM", "dumb")]

/-- The parts of the version. -/
def version : List String :=
  ["5", "2", "21", "1", "release", "x86_64-pc-linux-gnu"]

/-- Where programs are looked for if nothing else is said. -/
def usualPath : List Char :=
  "/usr/local/sbin:/usr/local/bin:/usr/sbin:/usr/bin:/sbin:/bin".toList

/-- Does the variable that says so really hold the working directory? -/
def knowsPlace (st : State) (path : List Char) : Bool :=
  path.head? = some '/' &&
    match st.files.resolve true (ByteText.toBytes path) with
    | .ok (.found place _) => place = st.files.cwd
    | _ => false

/-- Makes the functions that came as variables. -/
def withCarried (st : State) : State :=
  st.vars.foldl (fun (st : State) (given, text) =>
    match carried? given with
    | none => st
    | some name =>
      let st := st.unset given
      match (Script.Source.start .rich (name ++ ' ' :: text) 0).nextLine with
      | .ok (.define _ body written, _) =>
        { st with
          functions := (name, ⟨body, "environment".toList, written⟩) :: st.functions
          shared := name :: st.shared }
      | _ => st) st

/-- A shell as it starts, from the state of the program that calls it. -/
def asShell (st : State) (dialect : Dialect) (name : List Char) : State :=
  let place := (st.get? "PWD".toList).getD []
  let here := if st.knowsPlace place then place else Builtins.realPath st.files.cwd
  let st := { st.inside with
    dialect
    name
    origin := name
    caller := none
    args := []
    lists := []
    traits := []
    frozen := []
    aliases := []
    functions := []
    shared := []
    calls := []
    subshells := 0
    levels := 1
    disabled := []
    documents := []
    status := 0
    statuses := [0]
    here
    found := []
    jobs := []
    locals := none
    line := 0
    readLine := 0
    options := if dialect = Dialect.rich then ['h', 'B', '#'] else []
    manners := if dialect = Dialect.rich then Builtins.usualManners else []
    optionAt := (1, 0)
    guarded := false
    loops := 0
    depth := 0 }
  let st := if dialect = Dialect.rich then st.withCarried
    else { st with vars := st.vars.filter fun (name, _) => isName name }
  let own := if dialect = Dialect.rich then ownRichVariables else ownVariables
  let st := own.foldl (fun (st : State) (n, v) => st.set n.toList v.toList) st
  let st := if (st.get? "PATH".toList).isNone then st.set "PATH".toList usualPath else st
  let st := (st.set "PWD".toList here).expose "PWD".toList
  if dialect = Dialect.rich then
    let level := ((st.get? "SHLVL".toList).bind Tools.decimal?).getD 0 + 1
    let st := (st.set "SHLVL".toList (Nat.toDigits 10 level)).expose "SHLVL".toList
    st.setList "BASH_VERSINFO".toList (.ofList (version.map String.toList))
  else st

end State
end Scratchpad.Shell
