import Scratchpad.Shell.Builtins.Explaining
import Scratchpad.Shell.Builtins.Limits
import Scratchpad.Shell.Builtins.Moving
import Scratchpad.Shell.Builtins.Output
import Scratchpad.Shell.Builtins.Reading
import Scratchpad.Shell.Builtins.Signals
import Scratchpad.Shell.Builtins.Testing

/-!
# Built-in commands by their names

Some commands are special: they come before functions of the same name, settings in front of them
stay, and in the plain dialect a fault of theirs ends the shell. The commands that run others are only
named here.
-/

namespace Scratchpad.Shell.Builtins

def nothing (status : Nat) : Builtin := fun _ st => st.withStatus status

/-- The special commands that run no others. -/
def special : List (String × Builtin) :=
  [(":", nothing 0), ("exit", exit), ("break", leave), ("continue", again), ("return", giveBack),
    ("shift", shift), ("set", set), ("unset", unset), ("export", publish),
    ("readonly", freeze), ("trap", trap), ("times", times)]

/-- The other commands that run no others. -/
def ordinary : List (String × Builtin) :=
  [("true", nothing 0), ("false", nothing 1), ("echo", echo), ("printf", printf), ("cd", cd),
    ("pwd", pwd), ("read", read), ("test", test), ("[", bracket), ("kill", kill),
    ("wait", wait), ("umask", umask), ("alias", nameCommand), ("unalias", unalias),
    ("hash", hash), ("ulimit", ulimit), ("getopts", getopts), ("jobs", jobs),
    ("fg", resume "fg"), ("bg", resume "bg"), ("local", localize)]

/-- Those of the rich dialect alone. -/
def richOnly : List (String × Builtin) :=
  [("declare", declare "declare"), ("typeset", declare "typeset"), ("shopt", shopt),
    ("let", calculateAll), ("mapfile", nothing 0), ("readarray", nothing 0),
    ("pushd", pushd), ("popd", popd), ("dirs", dirs), ("disown", disown), ("caller", caller),
    ("history", nothing 0), ("complete", nothing 0), ("compopt", nothing 0), ("bind", nothing 0),
    ("fc", nothing 0),
    ("help", fun args st =>
      match args with
      | [] => st.withStatus 0
      | topic :: _ =>
        let name := ByteText.shown topic
        fails "help" ("no help topics match `" ++ name ++ "'.  Try `help help' or `man -k " ++ name ++
          "' or `info " ++ name ++ "'.") 1 st),
    ("logout", fun _ st => fails "logout" "not login shell: use `exit'" 1 st),
    ("suspend", fun _ st => fails "suspend" "cannot suspend: no job control" 1 st)]

/-- The names of the special commands. In the plain dialect `local` is one of them. -/
def specialNames (d : Dialect) : List String :=
  special.map (·.1) ++ ["eval", "exec", "."] ++
    match d with
    | .plain => ["local"]
    | .rich => ["source"]

/-- The names of all other commands. -/
def ordinaryNames (d : Dialect) : List String :=
  ordinary.map (·.1) ++ ["command", "type"] ++
    match d with
    | .plain => []
    | .rich => richOnly.map (·.1) ++ ["builtin", "enable", "compgen"]

def isSpecial (d : Dialect) (name : String) : Bool :=
  (specialNames d).contains name

def isKnownName (d : Dialect) (name : String) : Bool :=
  isSpecial d name || (ordinaryNames d).contains name

/-- Says how names would be called, or what they stand for. -/
def explainBy (who : String) (wordy : Bool) : Builtin := fun names st =>
  explain (st.enabled (specialNames st.dialect)) (st.enabled (ordinaryNames st.dialect)) who wordy names st

def type : Builtin := fun args st =>
  if st.isRich then typeRich (st.enabled (specialNames .rich)) (st.enabled (ordinaryNames .rich)) args st
  else explainBy "type" true args st

/-- Takes built-in commands out of use, puts them back, or lists them. -/
def enable : Builtin := fun args st =>
  reading "enable" false "adnpsf:" "enable [-a] [-dnps] [-f filename] [name ...]" args st fun found rest =>
    let off := asked found 'n'
    let special := specialNames .rich
    let all := (special ++ ordinaryNames .rich).mergeSort fun a b => !(b < a)
    if rest = [] then
      let shown := all.filter fun name =>
        (!asked found 's' || special.contains name) && (asked found 'a' || st.disabled.contains name = off)
      let line (name : String) : String :=
        (if st.disabled.contains name then "enable -n " else "enable ") ++ name ++ "\n"
      say "enable" (Bytes.ofString (String.join (shown.map line))) 0 st
    else
      rest.foldl (fun (st : State) arg =>
        let name := ByteText.shown arg
        if all.contains name then
          let others := st.disabled.filter (· ≠ name)
          { st with disabled := if off then name :: others else others }
        else fails "enable" (name ++ ": not a shell builtin") 1 st) (st.withStatus 0)

def compgen : Builtin :=
  compgenFrom ((specialNames .rich ++ ordinaryNames .rich).mergeSort fun a b => !(b < a))

/-- The built-in command of a name. -/
def find? (d : Dialect) (name : String) : Option Builtin :=
  match special.lookup name with
  | some b => some b
  | none =>
    match ordinary.lookup name, d with
    | some b, _ => some b
    | none, .plain => none
    | none, .rich =>
      match name with
      | "enable" => some enable
      | "compgen" => some compgen
      | name => richOnly.lookup name

/-- What a shell says of a program that a signal ended. -/
def obituary? : Nat → Option String
  | 1 => some "Hangup"
  | 3 => some "Quit"
  | 4 => some "Illegal instruction"
  | 6 => some "Aborted"
  | 8 => some "Floating point exception"
  | 9 => some "Killed"
  | 10 => some "User defined signal 1"
  | 11 => some "Segmentation fault"
  | 12 => some "User defined signal 2"
  | 14 => some "Alarm clock"
  | 15 => some "Terminated"
  | _ => none

end Scratchpad.Shell.Builtins
