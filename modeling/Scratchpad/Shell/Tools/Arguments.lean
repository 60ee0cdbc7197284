import Scratchpad.Shell.Tools.Basic

/-!
# Arguments in order

The tool that reads the arguments of a script: options come first, each in an argument of its own with
what it takes behind it, then two dashes and the operands. What is taken is quoted so that a shell
reads it back.
-/

namespace Scratchpad.Shell.Tools

open Deed (complaint ofWrites told)

namespace Arguments

/-- What happens at an operand: options are looked for behind it, or not, or it stays in its place. -/
inductive Order
  | mixed
  | stops
  | inPlace
deriving DecidableEq

/-- The options of a script: those with letters, those with names, whether a name may follow one dash,
and how operands are treated. -/
structure Grammar where
  letters : List (Char × Takes)
  names : List (String × Takes)
  oneDash : Bool
  order : Order

/-- The letters in a text in which colons say what is taken. -/
def lettersOf : List Char → List (Char × Takes)
  | [] => []
  | c :: ':' :: ':' :: rest => (c, .perhaps) :: lettersOf rest
  | c :: ':' :: rest => (c, .value) :: lettersOf rest
  | c :: rest => (c, .nothing) :: lettersOf rest

/-- The names in a text in which commas or blanks part them. -/
def namesOf (text : String) : List (String × Takes) :=
  let words := (text.split fun c => c = ',' || Floating.isSpace c).toStringList.filter (· ≠ "")
  words.map fun word =>
    let cs := word.toList
    let name := String.ofList (cs.reverse.dropWhile (· = ':')).reverse
    (name, if word.endsWith "::" then .perhaps else if word.endsWith ":" then .value else .nothing)

/-- What was read: the words for options, each with whether it is quoted, the operands, and what is
wrong, all with the last first. -/
structure Found where
  words : List (Bool × String) := []
  operands : List String := []
  faults : List String := []

namespace Found

/-- Adds a word that is shown as it is. -/
def put (f : Found) (word : String) : Found :=
  { f with words := (false, word) :: f.words }

/-- Adds a word that is quoted. -/
def quote (f : Found) (word : String) : Found :=
  { f with words := (true, word) :: f.words }

def blame (f : Found) (fault : String) : Found :=
  { f with faults := fault :: f.faults }

end Found

/-- Reads letters behind a dash, with the arguments after them. -/
def readLetters (g : Grammar) : List Char → List String → Found → Found × List String
  | [], rest, f => (f, rest)
  | c :: cs, rest, f =>
    match (if c = ':' then none else g.letters.lookup c) with
    | none => readLetters g cs rest (f.blame ("invalid option -- '" ++ String.singleton c ++ "'"))
    | some takes =>
      let put := f.put ("-" ++ String.singleton c)
      match takes, cs, rest with
      | .nothing, cs, rest => readLetters g cs rest put
      | .perhaps, cs, rest => (put.quote (String.ofList cs), rest)
      | .value, [], value :: rest => (put.quote value, rest)
      | .value, [], [] =>
        (f.blame ("option requires an argument -- '" ++ String.singleton c ++ "'"), [])
      | .value, cs, rest => (put.quote (String.ofList cs), rest)

/-- Reads a name behind some dashes, or nothing if there is none and letters may be meant. -/
def readName? (g : Grammar) (dashes : String) (text : List Char) (rest : List String) (f : Found) :
    Option (Found × List String) :=
  let name := String.ofList (text.takeWhile (· ≠ '='))
  let value := text.drop name.length
  let named := g.names.filter fun (n, _) => n.startsWith name
  let exact := named.filter fun (n, _) => n = name
  let quoted (name : String) : String := "option '" ++ dashes ++ name ++ "'"
  match (if exact.isEmpty then named else exact) with
  | [] =>
    if dashes = "-" && text.head?.any fun c => (g.letters.lookup c).isSome then none
    else
      some (f.blame ("unrecognized option '" ++ dashes ++ String.ofList text ++ "'"), rest)
  | (full, takes) :: others =>
    if others.any fun (n, _) => n ≠ full then
      some (f.blame (quoted (String.ofList text) ++ " is ambiguous; possibilities:" ++
        String.join (named.map fun (n, _) => " '" ++ dashes ++ n ++ "'")), rest)
    else
      let put := f.put ("--" ++ full)
      match takes, value, rest with
      | .nothing, _ :: _, rest => some (f.blame (quoted full ++ " doesn't allow an argument"), rest)
      | .nothing, [], rest => some (put, rest)
      | .value, [], value :: rest => some (put.quote value, rest)
      | .value, [], [] => some (f.blame (quoted full ++ " requires an argument"), [])
      | _, value, rest => some (put.quote (String.ofList (value.drop 1)), rest)

/-- Reads arguments; the fuel bounds their number. -/
def read (g : Grammar) : Nat → List String → Found → Found
  | 0, _, f => f
  | _, [], f => f
  | fuel + 1, arg :: rest, f =>
    match arg.toList with
    | ['-', '-'] => { f with operands := rest.reverse ++ f.operands }
    | '-' :: '-' :: name =>
      match readName? g "--" name rest f with
      | some (f, rest) => read g fuel rest f
      | none => read g fuel rest f
    | '-' :: c :: cs =>
      let tries := g.oneDash && (cs ≠ [] || (g.letters.lookup c).isNone)
      match (if tries then readName? g "-" (c :: cs) rest f else none) with
      | some (f, rest) => read g fuel rest f
      | none =>
        let (f, rest) := readLetters g (c :: cs) rest f
        read g fuel rest f
    | _ =>
      match g.order with
      | .mixed => read g fuel rest { f with operands := arg :: f.operands }
      | .stops => { f with operands := (arg :: rest).reverse ++ f.operands }
      | .inPlace => read g fuel rest (f.quote arg)

/-- How words are quoted. -/
inductive Quotation
  | none
  | usual
  | escaping
deriving DecidableEq

def Quotation.quote (q : Quotation) (word : String) : String :=
  let one (c : Char) : String :=
    if c = '\'' then "'\\''"
    else if q = .usual then String.singleton c
    else if c = '\\' then "\\\\"
    else if c = '!' then "'\\!'"
    else if c = '\n' then "\\n"
    else if Floating.isSpace c then "'\\" ++ String.singleton c ++ "'"
    else String.singleton c
  if q = .none then word else "'" ++ String.join (word.toList.map one) ++ "'"

end Arguments

def getoptForms : List OptionForm :=
  [.valued 'o' "options", .valued 'l' "longoptions", .flag 'q' "quiet", .flag 'Q' "quiet-output",
    .valued 's' "shell", .flag 'T' "test", .flag 'u' "unquoted", .flag 'a' "alternative",
    .valued 'n' "name"]

/-- Reads the arguments of a script and shows them in order. -/
def getopt (s : Scene) : Deed :=
  let missing := complaint s (hint "getopt" "missing optstring argument") 2
  let show1 (name : String) (loud shows : Bool) (q : Arguments.Quotation) (g : Arguments.Grammar)
      (args : List String) : Deed :=
    let f := Arguments.read g (args.length + 1) args {}
    let word (quoted : Bool) (text : String) : String := " " ++ if quoted then q.quote text else text
    let line := String.join (f.words.reverse.map fun (quoted, text) => word quoted text) ++ " --" ++
      String.join (f.operands.reverse.map (word true)) ++ "\n"
    let faults := if loud then f.faults.reverse.map fun fault => told (name ++ ": " ++ fault) else []
    ofWrites s (faults ++ if shows then [(.out, Bytes.ofString line)] else [])
      (if f.faults = [] then 0 else 1)
  let orderOf (text : String) : Arguments.Order × List Char :=
    match text.toList with
    | '+' :: cs => (.stops, cs)
    | '-' :: cs => (.inPlace, cs)
    | cs => (.mixed, cs)
  let compatible := (s.environment.lookup "GETOPT_COMPATIBLE").isSome
  match s.args with
  | [] => if compatible then ofWrites s [(.out, Bytes.ofString " --\n")] 0 else missing
  | first :: rest =>
    if !first.startsWith "-" || compatible then
      let order := if (s.environment.lookup "POSIXLY_CORRECT").isSome then .stops else .mixed
      show1 "getopt" true true .none
        ⟨Arguments.lettersOf (first.toList.dropWhile fun c => c = '+' || c = '-'), [], false, order⟩
        rest
    else
      readingFirst s "getopt" 2 getoptForms fun found operands =>
        let given := found.value? "options"
        let first? := given.or operands.head?
        let operands := if given.isSome then operands else operands.drop 1
        match first? with
        | none => if found.has "test" then ofWrites s [] 4 else missing
        | some text =>
          if found.has "test" then ofWrites s [] 4
          else
            let (order, cs) := orderOf text
            let shell := (found.value? "shell").getD "bash"
            if ! ["sh", "bash", "csh", "tcsh"].contains shell then
              complaint s (hint "getopt" "unknown shell after -s or --shell argument") 2
            else
              show1 ((found.value? "name").getD "getopt") (!found.has "quiet")
                (!found.has "quiet-output")
                (if found.has "unquoted" then .none
                  else if shell = "csh" || shell = "tcsh" then .escaping
                  else .usual)
                ⟨Arguments.lettersOf cs, (found.all "longoptions").flatMap Arguments.namesOf,
                  found.has "alternative", order⟩ operands

end Scratchpad.Shell.Tools
