import Scratchpad.Shell.Syntax

/-!
# Commands as they are shown

The rich dialect shows the commands of a function in a layout of its own, one to a line, whatever they
looked like when they were read. Here words are texts: they are kept as they are written. A document is
shown behind the line on which it is asked for, or, if commands are joined there, behind the sign that
joins them.
-/

namespace Scratchpad.Shell

/-- A text that is being laid out: what there is of it, last stretch first, how far lines are indented
and by how much more inside of a command, how many commands go on with the line, the documents that
wait for its end, and whether one has just been shown. -/
structure Sheet where
  text : List (List Char) := []
  indentation : Nat := 0
  step : Nat := 4
  onLine : Nat := 0
  joins : Nat := 0
  inFunction : Bool := false
  waiting : List (List Char × List Char) := []
  afterDocument : Bool := false

namespace Sheet

def add (s : Sheet) (cs : List Char) : Sheet :=
  { s with text := cs :: s.text }

def say (s : Sheet) (text : String) : Sheet :=
  s.add text.toList

def last? (s : Sheet) : Option Char :=
  (s.text.find? (· ≠ [])).bind List.getLast?

def whole (s : Sheet) : List Char :=
  s.text.reverse.flatten

def indent (s : Sheet) : Sheet :=
  s.add (List.replicate s.indentation ' ')

/-- Begins a command: on a line of its own it is indented. -/
def lead (s : Sheet) : Sheet :=
  if s.onLine = 0 then s.indent else { s with onLine := s.onLine - 1 }

/-- The next command goes on with the line. -/
def goOn (s : Sheet) : Sheet :=
  { s with onLine := s.onLine + 1 }

def deeper (s : Sheet) : Sheet :=
  { s with indentation := s.indentation + s.step }

def back (s : Sheet) : Sheet :=
  { s with indentation := s.indentation - s.step }

def newLine (s : Sheet) (text : String) : Sheet :=
  ((s.add ['\n']).indent).say text

def semicolon (s : Sheet) : Sheet :=
  if s.last? = some '&' || s.last? = some '\n' then s else s.add [';']

/-- Shows documents with the marks that end them. -/
def documents (s : Sheet) (found : List (List Char × List Char)) : Sheet :=
  let s := found.foldl (fun (s : Sheet) (text, mark) => (s.add text).add (mark ++ ['\n'])) (s.add ['\n'])
  { s with afterDocument := true }

/-- Shows the documents that wait, behind a sign. -/
def release (s : Sheet) (sign : String) : Sheet :=
  let s := if sign = ";" then s else s.say sign
  match s.waiting with
  | [] => s
  | found =>
    let s := ({ s with waiting := [] }).documents found
    if sign = "" || sign = ";" then s else s.add [' ']

/-- Shows the documents that still wait. -/
def settle (s : Sheet) : Sheet :=
  if s.waiting = [] then s else s.release ""

/-- Shows words with something between them. -/
def words (s : Sheet) (between : String) (ws : List (List Char)) : Sheet :=
  s.add (between.toList.intercalate ws)

end Sheet

namespace Layout

/-- A word as it is written. -/
def written (w : Word) : List Char :=
  w.flatMap fun
    | .text cs | .quoted [.text cs] => cs
    | _ => []

def ofSetting (s : Setting Word) : List Char :=
  let index : List Char := match s.index with
    | some w => '[' :: written w ++ [']']
    | none => []
  let value : List Char := match s.value with
    | .word w => written w
    | .list items =>
      let item (entry : Option Word × Word) : List Char :=
        match entry with
        | (some key, w) => '[' :: written key ++ [']', '='] ++ written w
        | (none, w) => written w
      '(' :: [' '].intercalate (items.map item) ++ [')']
  s.name ++ index ++ (if s.adds then ['+', '='] else ['=']) ++ value

/-- A redirection: output goes to the first descriptor and input to the one before it unless another
one is said. -/
def ofRedirect (r : Redirect Word) : List Char :=
  let target := written r.target
  let number := Nat.toDigits 10 r.fd
  let descriptor (usual : Option Nat) : List Char :=
    match r.holder with
    | some name => '\x7b' :: name ++ ['\x7d']
    | none => if usual = some r.fd then [] else number
  let sign := r.kind.sign.toList
  match r.kind with
  | .read => descriptor (some 0) ++ sign ++ ' ' :: target
  | .hereText => descriptor (some 0) ++ sign ++ ' ' :: target
  | .here => descriptor (some 0) ++ sign ++ written (r.target.take 1)
  | .both => descriptor (some 1) ++ sign ++ ' ' :: target
  | .duplicateIn =>
    if target = ['-'] then descriptor none ++ ['>', '&', '-'] else descriptor none ++ sign ++ target
  | .duplicateOut => descriptor none ++ sign ++ target
  | .writeBoth | .appendBoth => sign ++ ' ' :: target
  | .write | .force | .append => descriptor (some 1) ++ sign ++ ' ' :: target

/-- Shows redirections, those with documents in their places; the documents come behind the line. -/
def redirects (texts : List (Nat × Word)) (rs : List (Redirect Word)) (s : Sheet) : Sheet :=
  let s := { s with afterDocument := false }.words " " (rs.map ofRedirect)
  let found := rs.flatMap fun r =>
    match r.kind, r.target with
    | .here, [_, .text mark, .document id] => [(written ((texts.lookup id).getD []), mark)]
    | _, _ => []
  if found = [] then s
  else if s.joins = 0 then s.documents found
  else { s with waiting := found }

def condition : Condition Word → List Char
  | .word w => "-n ".toList ++ written w
  | .unary operator w => operator.toList ++ ' ' :: written w
  | .binary operator a b => written a ++ ' ' :: operator.toList ++ ' ' :: written b
  | .inner c => "( ".toList ++ condition c ++ " )".toList
  | .not c => "! ".toList ++ condition c
  | .both a b => condition a ++ " && ".toList ++ condition b
  | .either a b => condition a ++ " || ".toList ++ condition b

/-- The words that a loop goes through; without any it goes through the arguments. -/
def loopWords (words : Option (List Word)) : List Char :=
  match words with
  | none => "\"$@\"".toList
  | some ws => [' '].intercalate (ws.map written)

mutual

/-- Shows a command. The fuel bounds how deeply commands nest. -/
def command (texts : List (Nat × Word)) : Nat → Command → Sheet → Sheet
  | 0, _, s => s
  | fuel + 1, c, s =>
    let inner (c : Command) (s : Sheet) : Sheet := command texts fuel c s
    let closed (keyword : String) (c : Command) (s : Sheet) : Sheet :=
      ((((inner c s.deeper).settle).semicolon).back).newLine keyword
    let junction (sign : String) (a b : Command) (s : Sheet) : Sheet :=
      let s := { s with joins := s.joins + 1 }
      let s := (inner a s).release sign
      let s := (inner b s.goOn).settle
      { s with joins := s.joins - 1 }
    match c with
    | .simple _ settings ws declared rs =>
      let all := settings.map ofSetting ++ ws.map written ++ declared.map ofSetting
      let s := s.lead.words " " all
      if rs = [] then s
      else redirects texts rs (if all = [] then s else s.add [' '])
    | .pipe (first :: rest) =>
      let s := { s with joins := s.joins + 1 }
      let s := rest.foldl (fun (s : Sheet) c => inner c ((s.release " |").add [' ']).goOn) (inner first s)
      { s.settle with joins := s.joins - 1 }
    | .pipe [] => s
    | .negate c => inner c (s.lead.say "! ").goOn
    | .timed brief c => inner c (s.lead.say (if brief then "time -p " else "time ")).goOn
    | .both a b => junction " && " a b s
    | .either a b => junction " || " a b s
    | .background c =>
      let s := { s with joins := s.joins + 1 }
      let s := (inner c s).release " &"
      { s with joins := s.joins - 1 }
    | .sequence items => sequence texts fuel items s
    | .subshell c => ((inner c (s.lead.say "( ").goOn).settle).say " )"
    | .group c =>
      let s := s.lead.say "\x7b "
      if s.inFunction then
        let s := (inner c (s.add ['\n']).deeper).settle
        (((s.add ['\n']).back).indent).add ['\x7d']
      else ((((inner c s.goOn).settle).semicolon).say " ").add ['\x7d']
    | .redirected _ c rs => redirects texts rs ((inner c s).add [' '])
    | .branch test yes no =>
      let s := ((inner test (s.lead.say "if ").goOn).semicolon).say " then\n"
      let s := ((inner yes s.deeper).settle).back
      match no with
      | .sequence [] => (s.semicolon).newLine "fi"
      | no =>
        let s := (inner no ((s.semicolon).newLine "else\n").deeper).back
        (s.semicolon).newLine "fi"
    | .loop test stopOn body =>
      let s := (inner test (s.lead.say (if stopOn then "until " else "while ")).goOn).settle
      let s := (inner body ((s.semicolon).say " do\n").deeper).settle
      ((s.back).semicolon).newLine "done"
    | .each _ name ws body _ =>
      let s := s.lead.add ("for ".toList ++ name ++ " in ".toList ++ loopWords ws ++ [';'])
      closed "done" body (s.newLine "do\n")
    | .select _ name ws body _ =>
      let s := s.lead.add ("select ".toList ++ name ++ " in ".toList ++ loopWords ws ++ [';'])
      closed "done" body (s.newLine "do\n")
    | .count _ start test step body =>
      let part (w : Word) : List Char :=
        let cs := (written w).dropWhile fun c => c = ' ' || c = '\t'
        if cs = [] then ['1'] else cs
      let s := s.lead.add
        ("for ((".toList ++ part start ++ "; ".toList ++ part test ++ "; ".toList ++ part step ++ "))".toList)
      closed "done" body (s.newLine "do\n")
    | .choose _ subject arms _ =>
      let s := s.lead.add ("case ".toList ++ written subject ++ " in ".toList)
      let s := arms.foldl (fun (s : Sheet) arm =>
        let s := (s.newLine "").words " | " (arm.patterns.map written)
        let s := (inner arm.body (s.say ")\n").deeper).back.settle
        s.newLine (match arm.ending with
          | .stop => ";;"
          | .into => ";&"
          | .onward => ";;&")) s.deeper
      s.back.newLine "esac"
    | .calculate _ expression => s.lead.add ("((".toList ++ written expression ++ "))".toList)
    | .ask _ c => s.lead.add ("[[ ".toList ++ condition c ++ " ]]".toList)
    | .define name c _ =>
      let s := (((s.lead.add ("function ".toList ++ name ++ " () \n".toList)).indent).say "\x7b \n").deeper
      let before := s.inFunction
      let (body, rs) : Command × List (Redirect Word) := match c with
        | .redirected _ (.group c) rs => (c, rs)
        | .group c => (c, [])
        | c => (c, [])
      let s := { ((inner body { s with inFunction := true }).settle).back with inFunction := before }
      if rs = [] then s.newLine "\x7d" else redirects texts rs (s.newLine "\x7d ")

/-- Shows commands one after the other. Behind a job the line goes on. -/
def sequence (texts : List (Nat × Word)) : Nat → List Command → Sheet → Sheet
  | 0, _, s => s
  | _, [], s => s
  | fuel + 1, [c], s => command texts fuel c s
  | fuel + 1, items, s =>
    let last := items.length - 1
    let s := { s with joins := s.joins + 1 }
    let s := items.zipIdx.foldl (fun (s : Sheet) (c, i) =>
      match c with
      | .background c =>
        let s := (command texts fuel c s).release " &"
        if i = last then s else (s.add [' ']).goOn
      | c =>
        let s := command texts fuel c s
        if i = last then s
        else
          let s :=
            if s.waiting ≠ [] then s.release (if s.inFunction then "" else ";")
            else if s.afterDocument then { s with afterDocument := false }
            else s.add [';']
          if s.inFunction then s.add ['\n'] else (s.add [' ']).goOn) s
    { s.settle with joins := s.joins - 1 }

end

def deepest : Nat := 10000

/-- A command on one line as far as it goes. -/
def shown (texts : List (Nat × Word)) (c : Command) : List Char :=
  (command texts deepest c {}).whole

/-- A function under its name; on many lines, or on as few as possible. -/
def function (texts : List (Nat × Word)) (lines : Bool) (name : List Char) (c : Command) : List Char :=
  let (body, rs) : Command × List (Redirect Word) := match c with
    | .redirected _ (.group c) rs => (c, rs)
    | .group c => (c, [])
    | c => (c, [])
  let front : List Char := if name = [] then [] else
    (if Dialect.rich.reserved.contains (String.ofList name) then "function ".toList else []) ++ name ++ [' ']
  let s : Sheet := if lines then { indentation := 4, inFunction := true }
    else { indentation := 1, step := 0, inFunction := true }
  let s := s.add (front ++ "() ".toList ++ (if lines then ['\n'] else []) ++ "\x7b ".toList ++
    (if lines then ['\n'] else []))
  let s := { (command texts deepest body s).settle with indentation := 0 }
  (if rs = [] then s.newLine "\x7d" else redirects texts rs (s.newLine "\x7d ")).whole

end Layout
end Scratchpad.Shell
