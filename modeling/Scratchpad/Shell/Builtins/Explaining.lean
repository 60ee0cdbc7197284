import Scratchpad.Shell.Builtins.Declaring
import Scratchpad.Shell.Wildcards

/-!
# Commands about commands

What runs under a name: a word of the language, an alias, a function, a built-in command or a program.
What a word could become: words of a list, or names of some kind that begin with it.
-/

namespace Scratchpad.Shell.Builtins

/-- What runs under a name. -/
inductive Meaning
  | keyword
  | nickname (value : List Char)
  | function
  | builtin (special : Bool)
  | program (path : String)

/-- What a name means; the names of the built-in commands are known by two lists. A path of the plain
dialect need only be there. -/
def meaning? (st : State) (special ordinary : List String) (name : List Char) : Option Meaning :=
  let text := ByteText.shown name
  let usesAliases := !st.isRich || st.manners.contains "expand_aliases"
  let builtin (st : State) : Option Meaning :=
    if special.contains text then some (.builtin true)
    else if ordinary.contains text then some (.builtin false)
    else if text.toList.contains '/' then
      if st.isRich then
        match st.program text with
        | .ok _ => some (.program text)
        | .error _ => none
      else if st.files.pathExists (ByteText.toBytes name) then some (.program text) else none
    else
      match st.program text with
      | .ok (_, path) => some (.program path)
      | .error _ => none
  let function (st : State) : Option Meaning :=
    if (st.functions.lookup name).isSome then some .function else builtin st
  let named (st : State) : Option Meaning :=
    if st.dialect.reserved.contains text then some .keyword else function st
  match (if usesAliases then st.aliases.lookup name else none) with
  | some value =>
    if !st.isRich && st.dialect.reserved.contains text then some .keyword else some (.nickname value)
  | none => named st

/-- How a command is called, or in many words what it is. -/
def describe (st : State) (wordy : Bool) (name : List Char) (m : Meaning) : List Char :=
  let text := ByteText.shown name
  let said : String :=
    match m, wordy with
    | .keyword, true => text ++ " is a shell keyword"
    | .nickname value, true =>
      if st.isRich then text ++ " is aliased to `" ++ ByteText.shown value ++ "'"
      else text ++ " is an alias for " ++ ByteText.shown value
    | .nickname value, false =>
      "alias " ++ text ++ "=" ++
        ByteText.shown (if st.isRich then richlyQuoted value else singlyQuoted value)
    | .function, true =>
      let body := match st.functions.lookup name with
        | some f => ByteText.shown ('\n' :: functionText true name f)
        | none => ""
      text ++ (if st.isRich then " is a function" ++ body else " is a shell function")
    | .builtin special, true =>
      text ++ (if special && !st.isRich then " is a special shell builtin" else " is a shell builtin")
    | .program path, true =>
      if st.found.contains name then
        if st.isRich then text ++ " is hashed (" ++ path ++ ")"
        else text ++ " is a tracked alias for " ++ path
      else text ++ " is " ++ path
    | .program path, false => path
    | _, false => text
  ByteText.ofString (said ++ "\n")

/-- Says how each name would be called, or in many words what it stands for; `who` tells of names that
stand for nothing. -/
def explain (special ordinary : List String) (who : String) (wordy : Bool) : Builtin := fun names st =>
  let missing := if st.isRich then 1 else 127
  let (st, known) := names.foldl (fun (acc : State × Bool) name =>
    let (st, known) := acc
    match meaning? st special ordinary name with
    | some m => (st.write 1 (ByteText.toBytes (describe st wordy name m)), true)
    | none =>
      let text := ByteText.shown name ++ ": not found"
      let st :=
        if !wordy then st
        else if st.isRich then st.complain (who ++ ": " ++ text)
        else st.write 1 (Bytes.ofString (text ++ "\n"))
      (st.withStatus missing, known)) (st.withStatus 0, false)
  if st.isRich && known && who = "command" then st.withStatus 0 else st

/-- What kind of thing a name stands for, in one word. -/
def Meaning.kind : Meaning → String
  | .keyword => "keyword"
  | .nickname _ => "alias"
  | .function => "function"
  | .builtin _ => "builtin"
  | .program _ => "file"

/-- The explanations of the rich dialect. -/
def typeRich (special ordinary : List String) : Builtin := fun args st =>
  reading "type" false "afptP" "type [-afptP] name [name ...]" args st fun found rest =>
    let st := st.withStatus 0
    if asked found 't' then
      rest.foldl (fun (st : State) name =>
        match meaning? st special ordinary name with
        | some m => st.write 1 (Bytes.ofString (m.kind ++ "\n"))
        | none => st.withStatus 1) st
    else if asked found 'p' || asked found 'P' then
      rest.foldl (fun (st : State) name =>
        let m := if asked found 'P' then meaning? { st with functions := [], aliases := [] } [] [] name
          else meaning? st special ordinary name
        match m with
        | some (.program path) => st.write 1 (Bytes.ofString (path ++ "\n"))
        | some _ => st
        | none => st.withStatus 1) st
    else if asked found 'a' then
      rest.foldl (fun (st : State) name =>
        match meaning? st special ordinary name with
        | none => fails "type" (ByteText.shown name ++ ": not found") 1 st
        | some m =>
          let st := st.write 1 (ByteText.toBytes (describe st true name m))
          let bare := { st with functions := [], aliases := [], found := [] }
          match m, meaning? bare [] [] name with
          | .program _, _ | _, none => st
          | _, some file => st.write 1 (ByteText.toBytes (describe bare true name file))) st
    else explain special ordinary "type" true rest st

/-- Says from where the function that runs was called, or one of those that called it. -/
def caller : Builtin := fun args st =>
  let part (cs : Option (List Char)) : List Char := cs.getD "NULL".toList
  let lineOf (n : Nat) : Option (List Char) := st.calls[n]?.map fun c => Nat.toDigits 10 c.line
  match args, st.calls with
  | _, [] => st.withStatus 1
  | [], _ =>
    let line := part (lineOf 0) ++ ' ' :: part (st.calls[1]?.map (·.origin)) ++ ['\n']
    say "caller" (ByteText.toBytes line) 0 st
  | arg :: _, calls =>
    match integer? arg with
    | none => misused "caller" (ByteText.shown arg ++ ": invalid number") "caller [expr]" st
    | some n =>
      match (if n < 0 || st.locals.isNone then none else lineOf n.toNat), calls[n.toNat + 1]? with
      | some line, some c =>
        let line := line ++ ' ' :: c.name ++ ' ' :: c.origin ++ ['\n']
        say "caller" (ByteText.toBytes line) 0 st
      | _, _ => st.withStatus 1

/-- The place of a name in the table of programs that were found. -/
def slot (name : List Char) : Nat :=
  name.foldl (fun n c => n + c.toNat) (16 * ((name.head?.map (·.toNat)).getD 0)) % 31

/-- Keeps names of programs, shows them, or forgets them. -/
def hash : Builtin := fun args st =>
  reading "hash" false (if st.isRich then "lrp:dt" else "r") "hash [-lr] [-p pathname] [-dt] [name ...]"
      args st fun found rest =>
    if asked found 'r' then { st with found := [], status := 0 }
    else if rest = [] then
      if st.isRich then
        if st.found = [] then say "hash" (Bytes.ofString "hash: hash table empty\n") 0 st
        else st.withStatus 0
      else
        let names := st.found.reverse.mergeSort fun a b => slot a ≤ slot b
        names.foldl (fun (st : State) name =>
          match st.program (ByteText.shown name) with
          | .ok (_, path) => st.write 1 (Bytes.ofString (path ++ "\n"))
          | .error _ => st) (st.withStatus 0)
    else
      rest.foldl (fun (st : State) name =>
        match st.program (ByteText.shown name) with
        | .ok (_, path) =>
          if asked found 't' then st.write 1 (Bytes.ofString (path ++ "\n"))
          else if name.contains '/' || st.found.contains name then st
          else { st with found := name :: st.found }
        | .error _ =>
          if (st.functions.lookup name).isSome then st
          else fails "hash" (ByteText.shown name ++ ": not found") 1 st) (st.withStatus 0)

/-- Works out expressions; the last one decides. -/
def calculateAll : Builtin := fun args st =>
  if args = [] then fails "let" "expression expected" 1 st
  else
    args.foldl (fun (st : State) arg =>
      if st.status = 2 then st
      else
        match st.calculate (fun st text => (st.complain ("let: " ++ text)).withStatus 2) arg with
        | (st, some n) => st.withStatus (if n = 0 then 1 else 0)
        | (st, none) => st) (st.withStatus 0) |> fun st => if st.status = 2 then st.withStatus 1 else st

/-! ## Completing -/

open Files (Path)

/-- The letters of actions, and their names. -/
def actionLetters : List (Char × String) :=
  [('a', "alias"), ('b', "builtin"), ('c', "command"), ('d', "directory"), ('e', "export"),
    ('f', "file"), ('g', "group"), ('j', "job"), ('k', "keyword"), ('s', "service"), ('u', "user"),
    ('v', "variable")]

/-- The words of the language in the order in which they are known. -/
def keywords : List String :=
  ["if", "then", "else", "elif", "fi", "case", "esac", "for", "select", "while", "until", "do", "done",
    "in", "function", "time", "\x7b", "\x7d", "!", "[[", "]]", "coproc"]

/-- The names of a directory that begin with a text, which may have a path in front. -/
def filesFrom (st : State) (dirsOnly : Bool) (start : List Char) : List (List Char) :=
  let name := (start.splitOn '/').getLast?.getD []
  let dir := start.take (start.length - name.length)
  let names := (st.files.list (if dir = [] then [Path.dot] else ByteText.toBytes dir)).toOption.getD []
  let paths := names.map fun n => dir ++ ByteText.ofBytes n
  paths.filter fun p => start.isPrefixOf p && (!dirsOnly || st.files.isDir (ByteText.toBytes p))

/-- The names of some kind; nothing if there is no such kind. -/
def namesFor? (st : State) (builtins : List String) (start : List Char) (action : String) :
    Option (List (List Char)) :=
  let sorted (names : List (List Char)) : List (List Char) := names.mergeSort isBelow
  match action with
  | "alias" => some (sorted (st.aliases.map (·.1)))
  | "arrayvar" => some (sorted (st.lists.map (·.1)))
  | "builtin" => some (builtins.map String.toList)
  | "enabled" => some ((st.enabled builtins).map String.toList)
  | "disabled" => some (st.disabled.map String.toList)
  | "command" =>
    let path := (st.get? "PATH".toList).getD []
    let programs := (path.splitOn ':').flatMap fun dir =>
      ((st.files.list (ByteText.toBytes dir)).toOption.getD []).map ByteText.ofBytes
    some (keywords.map String.toList ++ sorted (st.functions.map (·.1)) ++ builtins.map String.toList ++ programs)
  | "directory" => some (filesFrom st true start)
  | "export" => some (sorted st.exported)
  | "file" => some (filesFrom st false start)
  | "function" => some (sorted (st.functions.map (·.1)))
  | "group" | "user" => some ["root".toList]
  | "job" | "running" | "stopped" | "service" | "binding" | "helptopic" => some []
  | "hostname" => some ["localhost".toList]
  | "keyword" => some (keywords.map String.toList)
  | "setopt" => some (State.longOptions.map (·.1.toList))
  | "shopt" => some (mannerNames.map String.toList)
  | "variable" => some (knownNames st)
  | _ => none

def compgenUsage : String :=
  "compgen [-abcdefgjksuv] [-o option] [-A action] [-G globpat] [-W wordlist] [-F function] " ++
    "[-C command] [-X filterpat] [-P prefix] [-S suffix] [word]"

/-- Shows what a word could become. -/
def compgenFrom (builtins : List String) : Builtin := fun args st =>
  reading "compgen" false "abcdefgjksuvo:A:G:W:F:C:X:P:S:" compgenUsage args st fun found rest =>
    let start := rest.headD []
    let actions := found.filterMap fun (c, value) =>
      if c = 'A' then some (ByteText.shown value) else actionLetters.lookup c
    match actions.find? fun a => (namesFor? st builtins start a).isNone with
    | some bad => fails "compgen" (bad ++ ": invalid action name") 2 st
    | none =>
      let value? (c : Char) : Option (List Char) := found.reverse.lookup c
      let fieldOf (cs : List Char) : Field := cs.map fun c => (c, false)
      let named := actions.flatMap fun a =>
        ((namesFor? st builtins start a).getD []).filter start.isPrefixOf
      let globbed := match value? 'G' with
        | some pattern => ((fieldOf pattern).paths? st.wilds st.files).getD []
        | none => []
      let listed := match value? 'W' with
        | some text =>
          ((text.splitOnP st.separators.contains).filter (· ≠ [])).filter start.isPrefixOf
        | none => []
      let all := named ++ globbed ++ listed
      let keeps (cs : List Char) : Bool :=
        match value? 'X' with
        | some ('!' :: pattern) => ((fieldOf pattern).pattern st.wilds).matchesAll (ByteText.toBytes cs)
        | some pattern => !((fieldOf pattern).pattern st.wilds).matchesAll (ByteText.toBytes cs)
        | none => true
      let shown := (all.filter keeps).map fun cs => (value? 'P').getD [] ++ cs ++ (value? 'S').getD []
      let isAsked := actions ≠ [] || (value? 'W').isSome || (value? 'G').isSome
      say "compgen" (ByteText.toBytes (shown.flatMap (· ++ ['\n']))) (if shown = [] && isAsked then 1 else 0) st

end Scratchpad.Shell.Builtins
