import Scratchpad.Shell.Deed

/-!
# Options

A tool's arguments are options and operands. An option has a letter, a name or both: letters follow
one dash, several of them in one argument, and names follow two; a name may be cut short as long as
no other one begins the same way. What an option takes is the rest of its argument or the next one;
after a name it may be told off by an equals sign. Two dashes alone end the options.
-/

namespace Scratchpad.Shell

inductive Takes
  | nothing
  | value
  | perhaps
deriving DecidableEq, Repr

structure OptionForm where
  letter : Option Char
  name : String
  takes : Takes

/-- The options that were given, in order, by their names, with what they took. -/
abbrev Options := List (String × String)

namespace OptionForm

def flag (letter : Char) (name : String) : OptionForm := ⟨some letter, name, .nothing⟩

def valued (letter : Char) (name : String) : OptionForm := ⟨some letter, name, .value⟩

def flags (letters : String) : List OptionForm :=
  letters.toList.map fun c => ⟨some c, String.singleton c, .nothing⟩

def longFlag (name : String) : OptionForm := ⟨none, name, .nothing⟩

def longValued (name : String) : OptionForm := ⟨none, name, .value⟩

/-- An option that is named by its letter has no long name. -/
def isLong (f : OptionForm) : Bool :=
  1 < f.name.length

end OptionForm

inductive OptionFault
  | unknownLetter (letter : Char)
  | unknownName (argument : String)
  | ambiguous (argument : String) (names : List String)
  | letterAlone (letter : Char)
  | nameAlone (name : String)
  | excess (name : String)

def OptionFault.message : OptionFault → String
  | .unknownLetter c => "invalid option -- '" ++ String.singleton c ++ "'"
  | .unknownName argument => "unrecognized option '" ++ argument ++ "'"
  | .ambiguous argument names =>
    "option '" ++ argument ++ "' is ambiguous; possibilities:" ++
      String.join (names.map fun name => " '--" ++ name ++ "'")
  | .letterAlone c => "option requires an argument -- '" ++ String.singleton c ++ "'"
  | .nameAlone name => "option '--" ++ name ++ "' requires an argument"
  | .excess name => "option '--" ++ name ++ "' doesn't allow an argument"

namespace Options

/-- What an option took the last time it was given. -/
def value? (o : Options) (name : String) : Option String :=
  o.reverse.lookup name

def has (o : Options) (name : String) : Bool :=
  o.any (·.1 = name)

/-- What an option took each time it was given. -/
def all (o : Options) (name : String) : List String :=
  (o.filter (·.1 = name)).map (·.2)

/-- An option that waits for the next argument, and what is wrong when there is none. -/
abbrev Waiting := Option (OptionForm × OptionFault)

/-- The options in an argument after its dash. -/
def ofLetters (forms : List OptionForm) : List Char → Except OptionFault (Options × Waiting)
  | [] => .ok ([], none)
  | c :: rest =>
    match forms.find? (·.letter = some c) with
    | none => .error (.unknownLetter c)
    | some form =>
      match form.takes, rest with
      | .nothing, rest => do
        let (found, waiting) ← ofLetters forms rest
        return ((form.name, "") :: found, waiting)
      | .value, [] => .ok ([], some (form, .letterAlone c))
      | _, rest => .ok ([(form.name, String.ofList rest)], none)

/-- The option in an argument after its two dashes. -/
def ofName (forms : List OptionForm) (argument : String) : Except OptionFault (Options × Waiting) :=
  let cs := argument.toList.drop 2
  let name := cs.takeWhile (· ≠ '=')
  let value := cs.drop name.length
  let named := forms.filter fun form => form.isLong && name.isPrefixOf form.name.toList
  let exact := named.filter fun form => form.name.toList = name
  match (if exact.isEmpty then named else exact) with
  | [] => .error (.unknownName argument)
  | form :: others =>
    if others.any (·.name ≠ form.name) then
      .error (.ambiguous argument (named.map (·.name)))
    else
      match form.takes, value with
      | .nothing, _ :: _ => .error (.excess form.name)
      | .value, [] => .ok ([], some (form, .nameAlone form.name))
      | _, value => .ok ([(form.name, String.ofList (value.drop 1))], none)

/-- Reads arguments up to the end of the options. Where options and operands are mixed, an operand
is no such end. -/
def readFrom (forms : List OptionForm) (mixed : Bool) :
    Waiting → List String → Except OptionFault (Options × List String)
  | some (_, fault), [] => .error fault
  | none, [] => .ok ([], [])
  | some (form, _), argument :: rest => do
    let (found, operands) ← readFrom forms mixed none rest
    return ((form.name, argument) :: found, operands)
  | none, argument :: rest =>
    if argument = "--" then .ok ([], rest)
    else if argument.startsWith "--" then do
      let (own, waiting) ← ofName forms argument
      let (found, operands) ← readFrom forms mixed waiting rest
      return (own ++ found, operands)
    else if argument.startsWith "-" && argument ≠ "-" then do
      let (own, waiting) ← ofLetters forms (argument.toList.drop 1)
      let (found, operands) ← readFrom forms mixed waiting rest
      return (own ++ found, operands)
    else if mixed then do
      let (found, operands) ← readFrom forms mixed none rest
      return (found, argument :: operands)
    else .ok ([], argument :: rest)

/-- Reads options and operands in any order. -/
def read (forms : List OptionForm) (args : List String) :
    Except OptionFault (Options × List String) :=
  readFrom forms true none args

end Options
end Scratchpad.Shell
