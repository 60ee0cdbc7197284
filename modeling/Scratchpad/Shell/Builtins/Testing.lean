import Scratchpad.Shell.Builtins.Basic

/-!
# Tests

`test` and `[` ask about texts, numbers and files. There are three readings of their arguments. The
plain dialect reads them from left to right and looks ahead for operators; the rich dialect and the
tool go by the number of arguments first, and differ in what they say when there is something wrong.
-/

namespace Scratchpad.Shell

open Files (Node Path System)

namespace Conditions

/-- Does a file have a property? `letter` stands for one. -/
def fileHas (files : System) (letter : Char) (name : String) : Bool :=
  let path := Path.ofString name
  let hasBits (n : Node) (bits : Nat) : Bool := n.traits.mode &&& bits ≠ 0
  match letter with
  | 'h' | 'L' =>
    match files.resolve false path with
    | .ok (.found _ (.link ..)) => true
    | _ => false
  | letter =>
    match files.node? path with
    | .error _ => false
    | .ok node =>
      match letter, node with
      | 'e', _ | 'a', _ | 'r', _ | 'w', _ => true
      | 'O', node => node.traits.owner = 0
      | 'G', node => node.traits.group = 0
      | 'x', .dir .. => true
      | 'x', node => hasBits node 0o111
      | 'f', .file .. | 'd', .dir .. | 'c', .device _ | 'p', .pipe .. => true
      | 's', .dir .. => true
      | 's', .file _ contents => contents ≠ []
      | 'u', node => hasBits node 0o4000
      | 'g', node => hasBits node 0o2000
      | 'k', node => hasBits node 0o1000
      | 'N', node => node.traits.used.any (· < node.traits.changed)
      | _, _ => false

/-- The letters of the properties. -/
def fileLetters : List Char :=
  ['e', 'r', 'w', 'O', 'G', 'x', 'f', 'd', 'c', 's', 'h', 'L', 'p', 'S', 'b', 'u', 'g', 'k']

/-- Do two names stand for the same file? -/
def sameFile (files : System) (a b : String) : Bool :=
  match files.resolve true (Path.ofString a), files.resolve true (Path.ofString b) with
  | .ok (.found p m), .ok (.found q n) =>
    p = q || (m.traits.number.isSome && m.traits.number = n.traits.number)
  | _, _ => false

/-- When what a name leads to was changed, if there is something. -/
def changedAt? (files : System) (name : String) : Option Int :=
  (files.node? (Path.ofString name)).toOption.map fun node => node.traits.changed

/-- Compares two numbers. -/
def comparison? : String → Option (Int → Int → Bool)
  | "-eq" => some fun a b => a = b
  | "-ne" => some fun a b => a ≠ b
  | "-lt" => some fun a b => a < b
  | "-le" => some fun a b => a ≤ b
  | "-gt" => some fun a b => a > b
  | "-ge" => some fun a b => a ≥ b
  | _ => none

def isBefore (a b : String) : Bool :=
  compare (Bytes.ofString a) (Bytes.ofString b) == .lt

/-- A test of two texts or files, if there is one of this name; `lone` says whether a file is newer than
none. -/
def texts? (files : System) (lone : Bool) (operator : String) : Option (String → String → Bool) :=
  let isNewer (a b : String) : Bool :=
    match changedAt? files a, changedAt? files b with
    | some m, some n => n < m
    | some _, none => lone
    | none, _ => false
  match operator with
  | "=" => some fun a b => a = b
  | "!=" => some fun a b => a ≠ b
  | "<" => some isBefore
  | ">" => some fun a b => isBefore b a
  | "-ef" => some (sameFile files)
  | "-nt" => some isNewer
  | "-ot" => some fun a b => isNewer b a
  | _ => none

end Conditions

open Conditions

namespace Builtins

/-! ## The plain dialect -/

inductive Operator
  | unary (letter : Char)
  | binary
  | not
  | and
  | or
  | opening
  | closing
deriving DecidableEq, Repr

def operator? (word : String) : Option Operator :=
  match word with
  | "!" => some .not
  | "-a" => some .and
  | "-o" => some .or
  | "(" => some .opening
  | ")" => some .closing
  | "=" | "!=" | "<" | ">" | "-nt" | "-ot" | "-ef" => some .binary
  | word =>
    if (comparison? word).isSome then some .binary
    else
      match word.toList with
      | ['-', c] => if fileLetters.contains c || ['n', 'z', 't'].contains c then some (.unary c) else none
      | _ => none

/-- The operator that comes first, unless it is an operand where it stands. -/
def leading : List String → Option Operator
  | [] => none
  | word :: rest =>
    match operator? word with
    | some (.unary c) =>
      match rest with
      | [] => none
      | [_] => some (.unary c)
      | next :: _ => if operator? next = some .binary then none else some (.unary c)
    | some .opening => if rest = [] then none else some .opening
    | found => found

/-- The number that an operand has to be. -/
def numberIn (word : String) : Except String Int :=
  match integer? (ByteText.ofString word) with
  | some n => .ok n
  | none => .error ("Illegal number: " ++ word)

def compared (files : System) (operator a b : String) : Except String Bool :=
  match texts? files false operator, comparison? operator with
  | some f, _ => .ok (f a b)
  | none, some f => do
    let m ← numberIn a
    let n ← numberIn b
    return f m n
  | none, none => .ok false

mutual

/-- Tests joined by `-o`, and the words from the last one that was read on; here and below, `found` is
the operator that comes first, and the fuel bounds the words. -/
def anyOf (files : System) : Nat → Option Operator → List String → Except String (Bool × List String)
  | 0, _, ws => .ok (false, ws)
  | fuel + 1, found, ws => do
    let (a, ws) ← allOf files fuel found ws
    if leading ws.tail = some .or then
      let rest := ws.drop 2
      let (b, ws) ← anyOf files fuel (leading rest) rest
      return (a || b, ws)
    else return (a, ws)

/-- Tests joined by `-a`. -/
def allOf (files : System) : Nat → Option Operator → List String → Except String (Bool × List String)
  | 0, _, ws => .ok (false, ws)
  | fuel + 1, found, ws => do
    let (a, ws) ← negated files fuel found ws
    if leading ws.tail = some .and then
      let rest := ws.drop 2
      let (b, ws) ← allOf files fuel (leading rest) rest
      return (a && b, ws)
    else return (a, ws)

def negated (files : System) : Nat → Option Operator → List String →
    Except String (Bool × List String)
  | 0, _, ws => .ok (false, ws)
  | fuel + 1, found, ws =>
    if found = some .not then do
      let (a, ws) ← match ws.tail with
        | [] => single files fuel none []
        | rest => negated files fuel (leading rest) rest
      return (!a, ws)
    else single files fuel found ws

/-- One test. -/
def single (files : System) : Nat → Option Operator → List String → Except String (Bool × List String)
  | 0, _, ws => .ok (false, ws)
  | _, _, [] => .ok (false, [])
  | fuel + 1, found, word :: rest =>
    match found with
    | some .opening =>
      if leading rest = some .closing then .ok (false, rest)
      else do
        let (a, ws) ← anyOf files fuel (leading rest) rest
        if leading ws.tail = some .closing then return (a, ws.tail)
        else .error "closing paren expected"
    | some (.unary c) =>
      match rest with
      | [] => .error (word ++ ": argument expected")
      | a :: _ =>
        if c = 'n' then .ok (a ≠ "", rest)
        else if c = 'z' then .ok (a = "", rest)
        else if c = 't' then (numberIn a).map fun _ => (false, rest)
        else .ok (fileHas files c a, rest)
    | _ =>
      match rest with
      | operator :: others =>
        if leading rest = some .binary then
          match others with
          | [] => .error (operator ++ ": argument expected")
          | b :: _ => (compared files operator word b).map fun a => (a, others)
        else .ok (word ≠ "", word :: rest)
      | [] => .ok (word ≠ "", [word])

end

/-- The outcome of some words that are read from left to right. -/
def readThrough (files : System) (found : Option Operator) (ws : List String) : Except String Bool := do
  let (a, rest) ← anyOf files (4 * ws.length + 8) found ws
  match rest with
  | word :: _ :: _ =>
    .error (if word = "" then "unexpected operator" else word ++ ": unexpected operator")
  | _ => return a

/-- The outcome of a test, or what is wrong with it. Three or four words may be a negation, which does
not undo one in front of it, or stand in parentheses. -/
def outcomeOf (files : System) (negated : Bool) : List String → Except String Bool
  | [] => .ok negated
  | w :: rest =>
    let read (found : Option Operator) (ws : List String) : Except String Bool :=
      (readThrough files found ws).map fun a => a != negated
    let few := rest.length = 2 || rest.length = 3
    if rest.length = 2 && (rest.head?.bind operator?) = some .binary then read none (w :: rest)
    else if few && w = "(" && rest.getLast? = some ")" then
      read (leading rest.dropLast) rest.dropLast
    else if few && w = "!" then outcomeOf files true rest
    else read (leading (w :: rest)) (w :: rest)

def outcome (files : System) (ws : List String) : Except String Bool :=
  outcomeOf files false ws

/-! ## The rich dialect and the tool -/

/-- Who asks: a shell, with brackets or without, or the tool. -/
inductive Asker
  | shell (st : State) (bracketed : Bool)
  | tool (files : System)

namespace Asker

def files : Asker → System
  | .shell st _ => st.files
  | .tool files => files

def choose (a : Asker) (shell tool : String) : String :=
  match a with
  | .shell .. => shell
  | .tool _ => tool

def unaryExpected (a : Asker) (word : String) : String :=
  a.choose (word ++ ": unary operator expected") (Quoting.value word ++ ": unary operator expected")

def binaryExpected (a : Asker) (word : String) : String :=
  a.choose (word ++ ": binary operator expected") (Quoting.value word ++ ": binary operator expected")

/-- A parenthesis is missing at the end. -/
def unclosed : Asker → String
  | .shell _ bracketed => if bracketed then "`)' expected, found ]" else "`)' expected"
  | .tool _ => "')' expected"

/-- Does a unary operator leave a word alone that may follow it? -/
def shuns (a : Asker) (operator word : String) : Bool :=
  match a with
  | .shell .. => operator = "-t" && (integer? (ByteText.ofString word)).isNone
  | .tool _ => false

/-- There are too few words. -/
def beyond (a : Asker) (ws : List String) : String :=
  a.choose "argument expected" ("missing argument after " ++ Quoting.value (ws.getLastD ""))

def isUnary (a : Asker) (word : String) : Bool :=
  match word.toList with
  | ['-', c] =>
    fileLetters.contains c || ['n', 'z', 't', 'N'].contains c ||
      match a with
      | .shell .. => ['a', 'o', 'v', 'R'].contains c
      | .tool _ => false
  | _ => false

def isBinary (a : Asker) (word : String) : Bool :=
  (comparison? word).isSome || (texts? a.files true word).isSome || word = "=="

def numberIn (a : Asker) (word : String) : Except String Int :=
  match integer? (ByteText.ofString word) with
  | some n => .ok n
  | none =>
    let text := word.toList.dropWhile isSpace
    let digits := match text with
      | '-' :: r | '+' :: r => r
      | r => r
    match a with
    | .tool _ =>
      let number := digits.takeWhile Char.isDigit
      if number ≠ [] && (digits.drop number.length).all fun c => c = ' ' || c = '\t' then
        let n := (Tools.decimal? number).getD 0
        .ok (if text.head? = some '-' then -n else n)
      else .error ("invalid integer " ++ Quoting.value word)
    | .shell .. => .error (word ++ ": integer expression expected")

/-- Is a variable, or a member of a list, set? -/
def isSet (st : State) (name : List Char) : Bool :=
  match name.takeWhile (· ≠ '[') with
  | base =>
    let key := (name.drop (base.length + 1)).dropLast
    if base.length = name.length then
      let name := st.aim name
      (isName name || name.all Char.isDigit) && (st.parameter? name).isSome
    else ((st.lists.lookup base).any fun l => key = ['@'] && l.items ≠ [] || (l.items.lookup key).isSome)
      || (key = ['0'] && (st.vars.lookup base).isSome)

def unary (a : Asker) (word arg : String) : Except String Bool :=
  match word.toList, a with
  | [_, 'n'], _ => .ok (arg ≠ "")
  | [_, 'z'], _ => .ok (arg = "")
  | [_, 't'], .tool _ => (a.numberIn arg).map fun _ => false
  | [_, 't'], _ | [_, 'N'], _ => .ok false
  | [_, 'v'], .shell st _ => .ok (isSet st (ByteText.ofString arg))
  | [_, 'R'], .shell st _ => .ok (st.hasTrait (ByteText.ofString arg) 'n')
  | [_, 'o'], .shell st _ => .ok (((State.longOptions.lookup arg).getD none).any st.has)
  | [_, c], a => .ok (fileHas a.files c arg)
  | _, _ => .ok false

def binary (a : Asker) (l operator r : String) : Except String Bool :=
  match texts? a.files true (if operator = "==" then "=" else operator), comparison? operator with
  | some f, _ => .ok (f l r)
  | none, some f => do
    let m ← a.numberIn l
    let n ← a.numberIn r
    return f m n
  | none, none => .ok false

def two (a : Asker) (x y : String) : Except String Bool :=
  if x = "!" then .ok (y = "")
  else
    match a, x.toList with
    | .tool _, ['-', _] => if a.isUnary x then a.unary x y else .error (a.unaryExpected x)
    | .tool _, _ => .error (a.beyond [x, y])
    | .shell .., _ => if a.isUnary x then a.unary x y else .error (a.unaryExpected x)

mutual

def any (a : Asker) (all : List String) : Nat → List String → Except String (Bool × List String)
  | 0, ws => .ok (false, ws)
  | fuel + 1, ws => do
    let (x, ws) ← every a all fuel ws
    match ws with
    | "-o" :: [] => .error (a.beyond all)
    | "-o" :: ws =>
      let (y, ws) ← any a all fuel ws
      return (x || y, ws)
    | ws => return (x, ws)

def every (a : Asker) (all : List String) : Nat → List String → Except String (Bool × List String)
  | 0, ws => .ok (false, ws)
  | fuel + 1, ws => do
    let (x, ws) ← term a all fuel ws
    match ws with
    | "-a" :: [] => .error (a.beyond all)
    | "-a" :: ws =>
      let (y, ws) ← every a all fuel ws
      return (x && y, ws)
    | ws => return (x, ws)

/-- One test among many; `all` are all words. -/
def term (a : Asker) (all : List String) : Nat → List String → Except String (Bool × List String)
  | 0, ws => .ok (false, ws)
  | _, [] => .error (a.beyond all)
  | fuel + 1, w :: rest =>
    if w = "!" then
      if rest = [] then .error (a.beyond all)
      else (term a all fuel rest).map fun (x, ws) => (!x, ws)
    else if w = "(" then
      if rest = [] then .error (a.beyond all)
      else do
        let (x, ws) ← any a all fuel rest
        match ws with
        | [] => .error (a.unclosed)
        | ")" :: ws => return (x, ws)
        | found :: _ =>
          .error (a.choose ("`)' expected, found " ++ found)
            ("')' expected, found " ++ Quoting.value found))
    else
      match rest with
      | operator :: r :: ws =>
        if a.isBinary operator then (a.binary w operator r).map fun x => (x, ws)
        else if a.shuns w operator then .ok (false, rest)
        else if a.isUnary w then (a.unary w operator).map fun x => (x, r :: ws)
        else lone w rest
      | [y] =>
        if a.shuns w y then .ok (false, rest)
        else if a.isUnary w then (a.unary w y).map fun x => (x, [])
        else lone w rest
      | [] => lone w rest
where
  lone (w : String) (rest : List String) : Except String (Bool × List String) :=
    match a, w.toList with
    | .tool _, ['-', _] =>
      if a.isUnary w then .error (a.beyond all) else .error (a.unaryExpected w)
    | _, _ => .ok (w ≠ "", rest)

end

def whole (a : Asker) (ws : List String) : Except String Bool := do
  let (x, rest) ← a.any ws (4 * ws.length + 8) ws
  match rest with
  | [] => return x
  | w :: _ =>
    .error (a.choose
      (if w.startsWith "-" then "syntax error: `" ++ w ++ "' unexpected" else "too many arguments")
      ("extra argument " ++ Quoting.value w))

def three (a : Asker) (x y z : String) : Except String Bool :=
  if a.isBinary y then a.binary x y z
  else if y = "-a" then .ok (x ≠ "" && z ≠ "")
  else if y = "-o" then .ok (x ≠ "" || z ≠ "")
  else if x = "!" then (a.two y z).map (!·)
  else if x = "(" && z = ")" then .ok (y ≠ "")
  else .error (a.binaryExpected y)

/-- The outcome of a test by the number of its words. -/
def outcome (a : Asker) (ws : List String) : Except String Bool :=
  match ws with
  | [] => .ok false
  | [x] => .ok (x ≠ "")
  | [x, y] => a.two x y
  | [x, y, z] => a.three x y z
  | [w, x, y, z] =>
    if w = "!" then (a.three x y z).map (!·)
    else if w = "(" && z = ")" then a.two x y
    else a.whole ws
  | ws => a.whole ws

end Asker

/-! ## Commands -/

def judge (name : String) (args : List (List Char)) (st : State) : State :=
  let ws := args.map ByteText.shown
  match (if st.isRich then (Asker.shell st (name = "[")).outcome ws else outcome st.files ws) with
  | .ok b => st.withStatus (if b then 0 else 1)
  | .error text => fails name text 2 st

def test : Builtin := judge "test"

def bracket : Builtin := fun args st =>
  match args.getLast? with
  | some last =>
    if last = [']'] || (!st.isRich && last.head? = some ']') then judge "[" args.dropLast st
    else missing st
  | none => missing st
where
  missing (st : State) : State :=
    fails "[" (if st.isRich then "missing `]'" else "missing ]") 2 st

/-- The tool of the same name. -/
def testTool (name : String) (args : List String) (st : State) : State :=
  let say (text : String) : State :=
    (st.write 2 (Bytes.ofString (name ++ ": " ++ text ++ "\n"))).withStatus 2
  let judged (ws : List String) : State :=
    match (Asker.tool st.files).outcome ws with
    | .ok b => st.withStatus (if b then 0 else 1)
    | .error text => say text
  if name = "[" then
    if args.getLast? = some "]" then judged args.dropLast else say "missing ']'"
  else judged args

end Builtins
end Scratchpad.Shell
