import Scratchpad.Shell.Builtins.Basic
import Scratchpad.Shell.Script
import Scratchpad.Shell.Variables

/-!
# Commands that set and forget

Options, arguments, variables and aliases: how they are set, shown and forgotten. The plain dialect
shows variables as commands in single quotes, the rich one as declarations with the marks that the
variables have.
-/

namespace Scratchpad.Shell.Builtins

/-! ## Options -/

/-- Options with long names. -/
def optionNames : List (String × Option Char) :=
  [("errexit", some 'e'), ("noglob", some 'f'), ("ignoreeof", some 'I'), ("interactive", some 'i'),
    ("monitor", some 'm'), ("noexec", some 'n'), ("stdin", some 's'), ("xtrace", some 'x'),
    ("verbose", some 'v'), ("vi", some 'V'), ("emacs", some 'E'), ("noclobber", some 'C'),
    ("allexport", some 'a'), ("notify", some 'b'), ("nounset", some 'u'), ("privileged", none),
    ("nolog", none), ("debug", none)]

def namesOf (st : State) : List (String × Option Char) :=
  if st.isRich then State.longOptions else optionNames

def turn (on : Bool) (st : State) (option : Char) : State :=
  { st with options := if on then option :: st.options.filter (· ≠ option)
      else st.options.filter (· ≠ option) }

/-- Says which options are on, in words or as commands. -/
def showOptions (wordy : Bool) (st : State) : State :=
  let isOn (letter : Option Char) : Bool := letter.any st.has
  let line (name : String) (letter : Option Char) : String :=
    if wordy then
      Tools.padRight (if st.isRich then 15 else 16) name ++ (if st.isRich then "\t" else "") ++
        (if isOn letter then "on" else "off") ++ "\n"
    else "set " ++ (if isOn letter then "-o " else "+o ") ++ name ++ "\n"
  let lines := (namesOf st).map fun (name, letter) => line name letter
  st.write 1 (Bytes.ofString
    ((if wordy && !st.isRich then "Current option settings\n" else "") ++ String.join lines))

/-- Why options cannot be set. -/
inductive OptionFault
  | name (text : String)
  | letter (text : String)

/-- Takes options in front of some arguments. Gives the rest, with a flag that says whether the
arguments are set to it, or what is wrong. -/
def takeOptions (st : State) :
    List (List Char) → Except OptionFault (State × Bool × List (List Char))
  | [] => .ok (st, false, [])
  | ['-', '-'] :: rest => .ok (st, true, rest)
  | ['-'] :: rest => .ok ({ st with options := st.options.filter fun c => c ≠ 'x' && c ≠ 'v' },
      !rest.isEmpty, rest)
  | [sign, 'o'] :: name :: rest =>
    if sign = '-' || sign = '+' then
      match (namesOf st).lookup (ByteText.shown name) with
      | some (some letter) => takeOptions (turn (sign = '-') st letter) rest
      | some none => takeOptions st rest
      | none => .error (.name (ByteText.shown name))
    else .ok (st, true, [sign, 'o'] :: name :: rest)
  | [sign, 'o'] :: [] =>
    if sign = '-' || sign = '+' then .ok (showOptions (sign = '-') st, false, [])
    else .ok (st, true, [[sign, 'o']])
  | (sign :: cluster) :: rest =>
    if sign = '-' || sign = '+' then
      let known := if st.isRich then State.richLetters.filter (fun c => c ≠ 'c' && c ≠ 's')
        else State.optionLetters
      let plain := cluster.filter (· ≠ 'o')
      match plain.find? (!known.contains ·) with
      | some c => .error (.letter (String.ofList [sign, c]))
      | none =>
        let st := plain.foldl (turn (sign = '-')) st
        if plain.length = cluster.length then takeOptions st rest
        else
          match rest with
          | name :: rest =>
            match (namesOf st).lookup (ByteText.shown name) with
            | some (some letter) => takeOptions (turn (sign = '-') st letter) rest
            | some none => takeOptions st rest
            | none => .error (.name (ByteText.shown name))
          | [] => .ok (showOptions (sign = '-') st, false, [])
    else .ok (st, true, (sign :: cluster) :: rest)
  | [] :: rest => .ok (st, true, [] :: rest)

/-! ## Variables shown -/

def isBelow (a b : List Char) : Bool :=
  compare (ByteText.toBytes a) (ByteText.toBytes b) != .gt

/-- The variables, in order, as commands that set them. -/
def listing (lead : String) (vars : List (List Char × Option (List Char))) : Bytes :=
  let lines := vars.map fun (name, value) =>
    lead.toList ++ name ++ (match value with
      | some cs => '=' :: singlyQuoted cs
      | none => [])
  ByteText.toBytes ((lines.mergeSort isBelow).flatMap (· ++ ['\n']))

/-- The members of a list between parentheses. -/
def shownList (l : Listing) : List Char :=
  let key (k : List Char) : List Char :=
    if l.keyed && k.any isRichlySpecial then doublyQuoted k else k
  let member (item : List Char × List Char) : List Char :=
    '[' :: key item.1 ++ [']', '='] ++ doublyQuoted item.2
  '(' :: [' '].intercalate (l.shown.map member) ++ (if l.keyed && l.items ≠ [] then [' '] else []) ++
    [')']

/-- The marks of a variable. -/
def marksOf (st : State) (name : List Char) : List Char :=
  let list := match st.lists.lookup name with
    | some l => if l.keyed then ['A'] else ['a']
    | none =>
      if st.hasTrait name 'A' then ['A'] else if st.hasTrait name 'a' then ['a'] else []
  list ++ (['i', 'n'].filter (st.hasTrait name ·)) ++
    (if st.frozen.contains name then ['r'] else []) ++
    (if st.exported.contains name then ['x'] else []) ++ (['l', 'u'].filter (st.hasTrait name ·))

def isKnown (st : State) (name : List Char) : Bool :=
  (st.vars.any (·.1 = name)) || (st.lists.any (·.1 = name)) || st.exported.contains name ||
    st.frozen.contains name || st.traits.any (·.1 = name)

/-- A variable as the declaration that makes it. -/
def declaration (st : State) (name : List Char) : List Char :=
  let marks := marksOf st name
  let value := match st.lists.lookup name, st.vars.lookup name with
    | some l, _ => '=' :: shownList l
    | none, some v => '=' :: doublyQuoted v
    | none, none => []
  "declare -".toList ++ (if marks = [] then ['-'] else marks) ++ ' ' :: name ++ value ++ ['\n']

/-- The names of all variables, in order. -/
def knownNames (st : State) : List (List Char) :=
  (st.vars.map (·.1) ++ st.lists.map (·.1) ++ st.exported ++ st.frozen ++ st.traits.map (·.1)
    ).eraseDups.mergeSort isBelow

/-! ## Functions shown -/

/-- A function as the command that makes it. -/
def functionText (lines : Bool) (name : List Char) (f : Routine) : List Char :=
  match Script.verbatim? f.written with
  | some (c, texts) => Layout.function texts lines name c
  | none => name ++ " () \n".toList

/-- The marks of a function as a declaration shows them. -/
def functionMarks (st : State) (name : List Char) : List Char :=
  "declare -f".toList ++ (if st.shared.contains name then ['x'] else []) ++ ' ' :: name ++ ['\n']

/-- Shows functions with their bodies, or their names alone. -/
def showFunctions (namesOnly marked : Bool) (names : List (List Char)) (st : State) : State :=
  let all := (st.functions.map (·.1)).mergeSort isBelow
  if names = [] then
    all.foldl (fun (st : State) name =>
      let text := match (if namesOnly then none else st.functions.lookup name) with
        | some f => functionText true name f ++ ['\n']
        | none => []
      let marks := if namesOnly || st.shared.contains name then functionMarks st name else []
      st.write 1 (ByteText.toBytes (text ++ marks))) (st.withStatus 0)
  else
    names.foldl (fun (st : State) name =>
      match st.functions.lookup name with
      | some f =>
        let text := if namesOnly then name
          else functionText true name f ++
            (if marked && st.shared.contains name then '\n' :: (functionMarks st name).dropLast else [])
        st.write 1 (ByteText.toBytes (text ++ ['\n']))
      | none => st.withStatus 1) (st.withStatus 0)

/-- Shares functions with programs, or keeps them from them. -/
def shareFunctions (who : String) (on : Bool) (names : List (List Char)) (st : State) : State :=
  names.foldl (fun (st : State) name =>
    if (st.functions.lookup name).isSome then
      let others := st.shared.filter (· ≠ name)
      { st with shared := if on then name :: others else others }
    else fails who (ByteText.shown name ++ ": not a function") 1 st) (st.withStatus 0)

/-- Sets options and arguments; without arguments it shows the variables. -/
def set : Builtin := fun args st =>
  if args.isEmpty then
    if st.isRich then
      let settings := (knownNames st).flatMap fun name =>
        match st.lists.lookup name, st.vars.lookup name with
        | some l, _ => name ++ '=' :: shownList l ++ ['\n']
        | none, some v => name ++ '=' :: (if v = [] then [] else richlyShown v) ++ ['\n']
        | none, none => []
      let functions := (st.functions.mergeSort fun a b => isBelow a.1 b.1).flatMap fun (name, f) =>
        functionText true name f ++ ['\n']
      (st.write 1 (ByteText.toBytes (settings ++ functions))).withStatus 0
    else
      (st.write 1 (listing "" (st.vars.map fun (name, value) => (name, some value)))).withStatus 0
  else
    match takeOptions st args with
    | .error fault =>
      match st.isRich, fault with
      | false, .name text => st.abort ("set: Illegal option -o " ++ text)
      | false, .letter text => st.abort ("set: Illegal option -" ++ String.ofList (text.toList.drop 1))
      | true, .name text => fails "set" (text ++ ": invalid option name") 2 st
      | true, .letter text =>
        misused "set" (text ++ ": invalid option")
          "set [-abefhkmnptuvxBCEHPT] [-o option-name] [--] [-] [arg ...]" st
    | .ok (st, given, rest) =>
      if given then { st with args := rest, status := 0 } else st.withStatus 0

/-! ## Forgetting -/

/-- A name with a key in brackets behind it. -/
def splitKey (cs : List Char) : List Char × Option (List Char) :=
  let name := cs.takeWhile (· ≠ '[')
  if name.length < cs.length && cs.getLast? = some ']' then
    (name, some ((cs.drop (name.length + 1)).dropLast))
  else (cs, none)

/-- Says what is wrong, with the command in front. -/
def objecting (who : String) : State → String → State := fun st text => fails who text 1 st

/-- The same where the line is given up as well. -/
def givingUp (who : String) : State → String → State := fun st text =>
  { fails who text 1 st with fate := .abandoned }

def unsetRich (functions itself : Bool) (st : State) (arg : List Char) : State :=
  let (name, key) := splitKey arg
  let (name, key) := if itself || key.isSome then (name, key) else splitKey (st.aim name)
  let name := if itself then name else st.aim name
  if functions then { st with
      functions := st.functions.filter (·.1 ≠ arg)
      shared := st.shared.filter (· ≠ arg) }
  else if st.frozen.contains name then
    fails "unset" (ByteText.shown name ++ ": cannot unset: readonly variable") 1 st
  else
    match key with
    | some key =>
      match st.lists.lookup name with
      | some l =>
        if key = ['@'] || key = ['*'] then st.setList name (Listing.empty l.keyed)
        else
          match st.keyOf (objecting "unset") name key with
          | (st, some key) => st.setList name (l.erase key)
          | (st, none) => st
      | none => st
    | none =>
      if itself && !st.hasTrait name 'n' then st
      else if isKnown st name then st.unset name
      else { st with
      functions := st.functions.filter (·.1 ≠ arg)
      shared := st.shared.filter (· ≠ arg) }

/-- Forgets variables, or functions. -/
def unset : Builtin := fun args st =>
  reading "unset" true (if st.isRich then "fvn" else "fv") "unset [-f] [-v] [-n] [name ...]" args st
    fun found names =>
      let functions := (found.getLast?.map (·.1)) = some 'f'
      names.foldl (fun (st : State) name =>
        if !st.isRunning then st
        else if st.isRich then unsetRich functions (asked found 'n') st name
        else if functions then { st with functions := st.functions.filter (·.1 ≠ name) }
        else if !Shell.isName name then
          st.abort ("unset: " ++ ByteText.shown name ++ ": bad variable name")
        else if st.frozen.contains name then st.abort ("unset: " ++ State.frozenText name)
        else st.unset name) (st.withStatus 0)

/-! ## Marking -/

/-- Marks variables, giving them values first where there are settings among the arguments. Without
arguments it lists those that are marked. -/
def declarePlain (who : String) (marked : State → List (List Char))
    (mark : State → List Char → State) : Builtin := fun args st =>
  reading who true "p" "" args st fun found rest =>
    if rest.isEmpty || asked found 'p' then
      (st.write 1 (listing (who ++ " ") ((marked st).map fun name => (name, st.get? name)))
        ).withStatus 0
    else
      rest.foldl (fun (st : State) arg =>
        if !st.isRunning then st
        else
          let name := arg.takeWhile (· ≠ '=')
          if !Shell.isName name then
            st.abort (who ++ ": " ++ ByteText.shown name ++ ": bad variable name")
          else
            match Shell.setting? arg with
            | some (name, value) =>
              if st.frozen.contains name then st.abort (who ++ ": " ++ State.frozenText name)
              else mark (st.set name value) name
            | none => mark st name) (st.withStatus 0)

def freezeName (st : State) (name : List Char) : State :=
  if st.frozen.contains name then st else { st with frozen := name :: st.frozen }

/-- What the rich dialect declares: the marks that are set and taken away, and whether that is local to
a function. -/
structure Declared where
  who : String
  on : List Char
  off : List Char
  isLocal : Bool

/-- Gives a variable its marks. -/
def Declared.mark (d : Declared) (st : State) (name : List Char) : State :=
  let kept := ['i', 'l', 'u', 'a', 'A', 'n']
  let new := (d.on.filter kept.contains).map fun c => (name, c)
  let st := { st with traits := new ++ st.traits.filter fun (n, c) =>
      !(n = name && (d.off.contains c || d.on.contains c ||
        (c = 'l' && d.on.contains 'u') || (c = 'u' && d.on.contains 'l'))) }
  let st := if d.on.contains 'x' then st.expose name
    else if d.off.contains 'x' then { st with exported := st.exported.filter (· ≠ name) }
    else st
  if (d.on.contains 'a' || d.on.contains 'A') && (st.lists.lookup name).isNone then
    match st.vars.lookup name with
    | some v => st.setList name ⟨d.on.contains 'A', [(['0'], v)]⟩
    | none => st
  else st

/-- Makes a variable local to the function. -/
def localizeName (st : State) (name : List Char) : State :=
  match st.locals with
  | some saved =>
    if saved.any (·.name = name) then st
    else
      let s := st.save name
      { st.unset name with locals := some (s :: saved) }
  | none => st

/-- Declares one argument: a name, or a setting. -/
def Declared.one (d : Declared) (st : State) (arg : List Char) : State :=
  let (target, adds, value) : List Char × Bool × Option (List Char) :=
    match Script.settingIn? arg with
    | some (name, index, adds, value) =>
      (match index with
        | some key => name ++ '[' :: key ++ [']']
        | none => name, adds, some value)
    | none => (arg, false, none)
  let (name, key) := splitKey target
  let refers := d.on.contains 'n'
  let name := if refers || d.off.contains 'n' || d.isLocal then name else st.aim name
  let referred := if refers then (value.getD ((st.vars.lookup name).getD [])) else []
  if !Shell.isName name then fails d.who (notAName arg) 1 st
  else if refers && key.isSome then
    fails d.who (ByteText.shown arg ++ ": reference variable cannot be an array") 1 st
  else if refers && referred ≠ [] && !Shell.isName (referred.takeWhile (· ≠ '[')) then
    fails d.who ("`" ++ ByteText.shown referred ++ "': invalid variable name for name reference") 1 st
  else if refers && referred = name && !d.isLocal then
    fails d.who (ByteText.shown name ++ ": nameref variable self references not allowed") 1 st
  else if st.frozen.contains name && (value.isSome || d.isLocal) then
    let text := ByteText.shown name ++ ": readonly variable"
    (st.complain (if d.who = "export" || d.who = "readonly" then text else d.who ++ ": " ++ text)
      ).withStatus 1
  else
    let st := if d.isLocal then localizeName st name else st
    let st := d.mark st name
    let st := match value with
      | none =>
        if isKnown st name then st else { st with traits := (name, '-') :: st.traits }
      | some value =>
        if refers then st.set name value
        else
        match key with
        | none => st.put (givingUp d.who) ⟨name, none⟩ adds value
        | some key =>
          match st.keyOf (objecting d.who) name key with
          | (st, some key) => st.put (objecting d.who) ⟨name, some key⟩ adds value
          | (st, none) => st
    if d.on.contains 'r' then freezeName st name else st

/-- Shows variables as declarations. -/
def showDeclared (who : String) (names : List (List Char)) (st : State) : State :=
  names.foldl (fun (st : State) name =>
    if isKnown st name then st.write 1 (ByteText.toBytes (declaration st name))
    else fails who (ByteText.shown name ++ ": not found") 1 st) (st.withStatus 0)

/-- The letters with which marks are set and taken away, and the arguments behind them; or a letter that
is none. -/
def marksIn (known : List Char) : List (List Char) → List Char → List Char →
    Except (List Char) (List Char × List Char × List (List Char))
  | ['-', '-'] :: rest, on, off => .ok (on, off, rest)
  | ('-' :: c :: cs) :: rest, on, off =>
    match (c :: cs).find? (!known.contains ·) with
    | some c => .error ['-', c]
    | none => marksIn known rest (on ++ c :: cs) off
  | ('+' :: c :: cs) :: rest, on, off =>
    match (c :: cs).find? (!known.contains ·) with
    | some c => .error ['+', c]
    | none => marksIn known rest on (off ++ c :: cs)
  | rest, on, off => .ok (on, off, rest)

def declareUsage : String :=
  " [-aAfFgiIlnrtux] [name[=value] ...] or declare -p [-aAfFilnrtux] [name ...]"

/-- Declares variables. -/
def declare (who : String) : Builtin := fun args st =>
  if who = "local" && st.locals.isNone then fails who "can only be used in a function" 1 st
  else
    match marksIn "aAfFgiIlnrtuxp".toList args [] [] with
    | .error text =>
      misused who (String.ofList text ++ ": invalid option")
        (if who = "local" then "local [option] name[=value] ..."
        else who ++ declareUsage) st
    | .ok (on, off, rest) =>
      if on.contains 'F' || on.contains 'f' then
        if rest ≠ [] && (on.contains 'x' || off.contains 'x') then
          shareFunctions who (on.contains 'x') rest st
        else showFunctions (on.contains 'F') (on.contains 'p') rest st
      else if on.contains 'p' || rest = [] then
        let names := if rest ≠ [] then rest
          else (knownNames st).filter fun name =>
            (on.filter (· ≠ 'p')).all (marksOf st name).contains
        showDeclared who names st
      else
        let d : Declared := ⟨who, on, off, st.locals.isSome && !on.contains 'g'⟩
        rest.foldl d.one (st.withStatus 0)

/-- Marks variables of the rich dialect, or lists those that are marked. -/
def markRich (who usage : String) (mark : Char) : Builtin := fun args st =>
  reading who true (if mark = 'x' then "fnp" else "aAfp") usage args st fun found rest =>
    if asked found 'f' then
      if mark ≠ 'x' then
        rest.foldl (fun (st : State) name =>
          if (st.functions.lookup name).isSome then st
          else fails who (ByteText.shown name ++ ": not a function") 1 st) (st.withStatus 0)
      else if rest = [] then showFunctions false true (st.shared.mergeSort isBelow) (st.withStatus 0)
      else shareFunctions who (!asked found 'n') rest st
    else if rest.isEmpty then
      let marked := (knownNames st).filter fun name => (marksOf st name).contains mark
      showDeclared who marked st
    else
      let on := if asked found 'n' then [] else
        mark :: (if asked found 'a' then ['a'] else []) ++ (if asked found 'A' then ['A'] else [])
      let d : Declared := ⟨who, on, if asked found 'n' then ['x'] else [], false⟩
      rest.foldl d.one (st.withStatus 0)

def publish : Builtin := fun args st =>
  if st.isRich then markRich "export" "export [-fn] [name[=value] ...] or export -p" 'x' args st
  else declarePlain "export" State.exported State.expose args st

def freeze : Builtin := fun args st =>
  if st.isRich then
    markRich "readonly" "readonly [-aAf] [name[=value] ...] or readonly -p" 'r' args st
  else declarePlain "readonly" State.frozen freezeName args st

/-- Makes variables local to a function, with settings among them. -/
def localize : Builtin := fun args st =>
  if st.isRich then declare "local" args st
  else
    match st.locals with
    | none => st.abort "local: not in a function"
    | some _ =>
      (args.foldl (fun (st : State) arg =>
        if !st.isRunning then st
        else
          let name := arg.takeWhile (· ≠ '=')
          if arg = ['-'] then st
          else if !Shell.isName name then
            st.abort ("local: " ++ ByteText.shown name ++ ": bad variable name")
          else
            let st := { st with locals := st.locals.map (st.save name :: ·) }
            match Shell.setting? arg with
            | some (name, value) =>
              if st.frozen.contains name then st.abort ("local: " ++ State.frozenText name)
              else st.set name value
            | none => st) (st.withStatus 0))

/-! ## Manners of the rich dialect -/

def mannerNames : List String :=
  ["autocd", "assoc_expand_once", "cdable_vars", "cdspell", "checkhash", "checkjobs", "checkwinsize",
    "cmdhist", "compat31", "compat32", "compat40", "compat41", "compat42", "compat43", "compat44",
    "complete_fullquote", "direxpand", "dirspell", "dotglob", "execfail", "expand_aliases",
    "extdebug", "extglob", "extquote", "failglob", "force_fignore", "globasciiranges",
    "globskipdots", "globstar", "gnu_errfmt", "histappend", "histreedit", "histverify",
    "hostcomplete", "huponexit", "inherit_errexit", "interactive_comments", "lastpipe", "lithist",
    "localvar_inherit", "localvar_unset", "login_shell", "mailwarn", "no_empty_cmd_completion",
    "nocaseglob", "nocasematch", "noexpand_translation", "nullglob", "patsub_replacement",
    "progcomp", "progcomp_alias", "promptvars", "restricted_shell", "shift_verbose", "sourcepath",
    "syslog_history", "varredir_close", "xpg_echo"]

/-- Those that a shell starts with. -/
def usualManners : List String :=
  ["checkwinsize", "cmdhist", "complete_fullquote", "extquote", "force_fignore", "globasciiranges",
    "globskipdots", "hostcomplete", "interactive_comments", "patsub_replacement", "progcomp",
    "promptvars", "sourcepath"]

/-- Sets manners, or options with long names, or says which are set. -/
def shopt : Builtin := fun args st =>
  reading "shopt" false "pqsuo" "shopt [-pqsu] [-o] [optname ...]" args st fun found rest =>
    let long := asked found 'o'
    let letterOf (name : String) : Option Char := (State.longOptions.lookup name).getD none
    let isOn (st : State) (name : String) : Bool :=
      if long then (letterOf name).any st.has else st.manners.contains name
    let names := if long then State.longOptions.map (·.1) else mannerNames
    let changes := asked found 's' || asked found 'u'
    let show1 (st : State) (name : String) : State :=
      if asked found 'q' then st
      else
        let text :=
          if asked found 'p' then
            (if long then "set " ++ (if isOn st name then "-o " else "+o ")
              else "shopt " ++ (if isOn st name then "-s " else "-u ")) ++ name
          else Tools.padRight 15 name ++ "\t" ++ (if isOn st name then "on" else "off")
        st.write 1 (Bytes.ofString (text ++ "\n"))
    let st := st.withStatus 0
    if rest = [] then
      (names.filter fun name => !changes || isOn st name = asked found 's').foldl show1 st
    else
      rest.foldl (fun (st : State) arg =>
        let name := ByteText.shown arg
        if !names.contains name then
          fails "shopt" (name ++ (if long then ": invalid option name"
            else ": invalid shell option name")) 1 st
        else if changes then
          if long then
            match letterOf name with
            | some c => turn (asked found 's') st c
            | none => st
          else
            let others := st.manners.filter (· ≠ name)
            { st with manners := if asked found 's' then name :: others else others }
        else
          let st' := show1 st name
          if isOn st name then st' else st'.withStatus 1) st

/-! ## Aliases -/

/-- Gives names to commands, or shows them. -/
def nameCommand : Builtin := fun args st =>
  let line (name value : List Char) : Bytes :=
    ByteText.toBytes (if st.isRich then "alias ".toList ++ name ++ '=' :: richlyQuoted value ++ ['\n']
      else name ++ '=' :: singlyQuoted value ++ ['\n'])
  let args := if st.isRich then args.dropWhile (· = ['-', 'p']) else args
  if args.isEmpty then
    let sorted := if st.isRich then st.aliases.mergeSort fun a b => isBelow a.1 b.1
      else st.aliases.reverse.mergeSort fun a b => Shell.bucket a.1 ≤ Shell.bucket b.1
    (st.write 1 (sorted.flatMap fun (name, value) => line name value)).withStatus 0
  else
    args.foldl (fun (st : State) arg =>
      let name := arg.takeWhile (· ≠ '=')
      if name.length < arg.length && name ≠ [] then
        if st.isRich && name.any fun c => isRichlySpecial c || c = '/' then
          fails "alias" ("`" ++ ByteText.shown name ++ "': invalid alias name") 1 st
        else
          { st with
            aliases := (name, arg.drop (name.length + 1)) :: st.aliases.filter (·.1 ≠ name) }
      else
        match st.aliases.lookup name with
        | some value => st.write 1 (line name value)
        | none =>
          if st.isRich then fails "alias" (ByteText.shown name ++ ": not found") 1 st
          else
            (st.write 2 (ByteText.toBytes ("alias: ".toList ++ name ++ " not found\n".toList))
              ).withStatus 1) (st.withStatus 0)

def unalias : Builtin := fun args st =>
  reading "unalias" false "a" "unalias [-a] name [name ...]" args st fun found rest =>
    if asked found 'a' then { st with aliases := [], status := 0 }
    else if st.isRich && rest = [] then
      misused "unalias" "" "unalias [-a] name [name ...]" st
    else
      rest.foldl (fun (st : State) name =>
        if st.aliases.any (·.1 = name) then
          { st with aliases := st.aliases.filter (·.1 ≠ name) }
        else if st.isRich then fails "unalias" (ByteText.shown name ++ ": not found") 1 st
        else
          (st.write 2 (ByteText.toBytes ("unalias: ".toList ++ name ++ " not found\n".toList))
            ).withStatus 1) (st.withStatus 0)

end Scratchpad.Shell.Builtins
