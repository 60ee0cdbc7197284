import Scratchpad.Shell.Runner.Timing

/-!
# Runs with other variables

The program that runs another one with variables of its choice. One of its options holds a text that
stands for several arguments: blanks part them, quotes keep blanks, and references to variables are
replaced.
-/

namespace Scratchpad.Shell

namespace Runner

open Tools (hint)

/-! ## Arguments in one text -/

/-- What the split of a text is inside of. -/
inductive Wrap
  | none
  | single
  | double
deriving DecidableEq

/-- What is wrong with a text that stands for arguments. -/
inductive SplitFault
  | unknown (c : Char)
  | openQuote
  | endsIn
  | stopInQuotes
  | badName (rest : List Char)

def SplitFault.message : SplitFault → String
  | .unknown c => "invalid sequence '\\" ++ String.singleton c ++ "' in -S"
  | .openQuote => "no terminating quote in -S string"
  | .endsIn => "invalid backslash at end of string in -S"
  | .stopInQuotes => "'\\c' must not appear in double-quoted -S string"
  | .badName rest =>
    "only $\x7bVARNAME\x7d expansion is supported, error at: " ++ String.ofList rest

/-- The words so far, the last first, and the word at hand, reversed, if there is one. -/
structure Splitting where
  done : List (List Char) := []
  word : Option (List Char) := none

namespace Splitting

def put (s : Splitting) (cs : List Char) : Splitting :=
  { s with word := some (cs.reverse ++ s.word.getD []) }

def close (s : Splitting) : Splitting :=
  match s.word with
  | some word => ⟨word.reverse :: s.done, none⟩
  | none => s

def words (s : Splitting) : List String :=
  s.close.done.reverse.map String.ofList

end Splitting

/-- The name in braces behind a dollar sign, and what comes after it. -/
def bracedName? (cs : List Char) : Option (List Char × List Char) :=
  match cs with
  | '{' :: rest =>
    let name := rest.takeWhile fun c => c.isAlphanum || c = '_'
    match rest.drop name.length with
    | '}' :: rest =>
      if name.head?.any fun c => !c.isDigit then some (name, rest) else Option.none
    | _ => Option.none
  | _ => Option.none

/-- Splits a text into words. The fuel bounds its length. -/
def splitText (valueOf : List Char → Option (List Char)) :
    Nat → Wrap → Splitting → List Char → Except SplitFault Splitting
  | 0, _, s, _ => .ok s
  | _, wrap, s, [] => if wrap = .none then .ok s else .error .openQuote
  | fuel + 1, wrap, s, c :: rest =>
    let go := splitText valueOf fuel
    match wrap, c with
    | .none, '\'' => go .single (s.put []) rest
    | .none, '"' => go .double (s.put []) rest
    | .single, '\'' => go .none s rest
    | .double, '"' => go .none s rest
    | .single, '\\' =>
      match rest with
      | '\\' :: rest => go .single (s.put ['\\']) rest
      | '\'' :: rest => go .single (s.put ['\'']) rest
      | rest => go .single (s.put ['\\']) rest
    | wrap, '\\' =>
      match rest with
      | [] => .error .endsIn
      | 'c' :: _ => if wrap = .double then .error .stopInQuotes else .ok s
      | '_' :: rest => if wrap = .double then go wrap (s.put [' ']) rest else go wrap s.close rest
      | e :: rest =>
        match e with
        | 'f' => go wrap (s.put ['\x0c']) rest
        | 'n' => go wrap (s.put ['\n']) rest
        | 'r' => go wrap (s.put ['\r']) rest
        | 't' => go wrap (s.put ['\t']) rest
        | 'v' => go wrap (s.put ['\x0b']) rest
        | '"' | '#' | '$' | '\'' | '\\' => go wrap (s.put [e]) rest
        | e => .error (.unknown e)
    | .none, '#' => if s.word.isSome then go .none (s.put ['#']) rest else .ok s
    | .single, c => go .single (s.put [c]) rest
    | wrap, '$' =>
      match bracedName? rest with
      | Option.none => .error (.badName ('$' :: rest))
      | some (name, rest) =>
        match valueOf name with
        | some value => go wrap (s.put value) rest
        | Option.none => go wrap s rest
    | .none, c =>
      if Floating.isSpace c then go .none s.close rest else go .none (s.put [c]) rest
    | .double, c => go .double (s.put [c]) rest

/-! ## Options -/

def envForms : List OptionForm :=
  [.flag 'i' "ignore-environment", .flag '0' "null", .valued 'u' "unset", .valued 'C' "chdir",
    ⟨none, "default-signal", .perhaps⟩, ⟨none, "ignore-signal", .perhaps⟩,
    ⟨none, "block-signal", .perhaps⟩, .longFlag "list-signal-handling", .flag 'v' "debug",
    .valued 'S' "split-string"]

/-- What a program is run with: options, settings, and the command. -/
structure Surroundings where
  options : Options
  settings : List String
  command : List String

/-- Reads the options, of which a text that stands for arguments puts these in its place. The fuel
bounds the arguments. -/
def readEnv (valueOf : List Char → Option (List Char)) :
    Nat → List String → Except String (Options × List String)
  | 0, args => .ok ([], args)
  | _, [] => .ok ([], [])
  | fuel + 1, arg :: rest => do
    if arg = "--" then return ([], rest)
    if !arg.startsWith "-" || arg = "-" then return ([], arg :: rest)
    let told (f : OptionFault) : String := hint "env" f.message
    let (own, waiting) ← (if arg.startsWith "--" then Options.ofName envForms arg
      else Options.ofLetters envForms (arg.toList.drop 1)).mapError told
    let (own, rest) ← match waiting, rest with
      | none, rest => pure (own, rest)
      | some (_, fault), [] => throw (told fault)
      | some (form, _), value :: rest => pure (own ++ [(form.name, value)], rest)
    let words ← match own.value? "split-string" with
      | some text =>
        ((splitText valueOf (text.length + 1) .none {} text.toList).map Splitting.words).mapError
          fun f => "env: " ++ f.message
      | none => pure []
    let (others, rest) ← readEnv valueOf fuel (words ++ rest)
    return (own.filter (·.1 ≠ "split-string") ++ others, rest)

/-- Reads the arguments of the program. -/
def Surroundings.ofArgs (valueOf : List Char → Option (List Char)) (args : List String) :
    Except String Surroundings := do
  let size := args.length + args.foldl (fun n arg => n + arg.length) 0
  let (options, rest) ← readEnv valueOf (size + 1) args
  let isBare := rest.head? = some "-"
  let options : Options :=
    if isBare then ("ignore-environment", "") :: options else options
  let rest := if isBare then rest.drop 1 else rest
  let settings := rest.takeWhile (·.toList.contains '=')
  let command := rest.drop settings.length
  if options.has "null" && command ≠ [] then
    throw (hint "env" "cannot specify --null (-0) with command")
  if options.has "chdir" && command = [] then
    throw (hint "env" "must specify command with --chdir (-C)")
  return { options, settings, command }

/-- What is told of a command that is not found. -/
def envFailure (text : String) (e : Files.Error) : String :=
  quotedFailure "env: " text e ++
    (if e = .noEntry && text.toList.any Floating.isSpace then
      "\nenv: use -[v]S to pass options in shebang lines"
    else "")

end Runner

namespace State

/-- Shows the variables that a program was given, each with its end, or those among them that are
named. -/
def showVariables (st : State) (ending : Char) (names : List (List Char)) : State :=
  match names with
  | [] =>
    (st.write 1 (st.environment.reverse.flatMap fun (name, value) =>
      ByteText.toBytes (name ++ '=' :: value ++ [ending]))).withStatus 0
  | names =>
    let found := names.map st.get?
    (st.write 1 (found.flatMap fun
      | some value => ByteText.toBytes (value ++ [ending])
      | none => [])).withStatus (if found.all Option.isSome then 0 else 1)

/-- Shows variables as `printenv` does. -/
def printVariables (st : State) (args : List String) : State :=
  match Runner.leading "printenv" [.flag '0' "null"] args with
  | .error text => st.fails text 2
  | .ok (found, names) =>
    st.showVariables (if found.has "null" then '\x00' else '\n') (names.map ByteText.ofString)

/-- Gives a variable a value where it stands, or in front of all others. -/
def settle (st : State) (setting : String) : State :=
  let text := ByteText.ofString setting
  let name := text.takeWhile (· ≠ '=')
  let value := text.drop (name.length + 1)
  if st.vars.any (·.1 = name) then
    { st with vars := st.vars.map fun (n, v) => (n, if n = name then value else v) }
  else { st with vars := (name, value) :: st.vars }

/-- The state around a program that is run in other surroundings, or why there is none. -/
def surrounded (st : State) (s : Runner.Surroundings) : Except String State := do
  let bad := (s.options.all "unset").find? fun name => name = "" || name.toList.contains '='
  if let some name := bad then
    throw ("env: cannot unset " ++ Quoting.value name ++ ": Invalid argument")
  let st :=
    if s.options.has "ignore-environment" then { st with vars := [] }
    else (s.options.all "unset").foldl (fun (st : State) name => st.unset (ByteText.ofString name)) st
  let st := s.settings.foldl settle st
  let st := { st with exported := st.vars.map (·.1) }
  match s.options.value? "chdir" with
  | none => return st
  | some dir =>
    match st.files.resolve true (Files.Path.ofString dir) with
    | .ok (.found place (.dir ..)) => return { st with files := { st.files with cwd := place } }
    | .ok (.found ..) =>
      throw ("env: cannot change directory to " ++ Quoting.always dir ++ ": Not a directory")
    | .ok (.absent ..) =>
      throw ("env: cannot change directory to " ++ Quoting.always dir ++ ": No such file or directory")
    | .error e =>
      throw ("env: cannot change directory to " ++ Quoting.always dir ++ ": " ++ e.reason)

end State
end Scratchpad.Shell
