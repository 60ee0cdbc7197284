import Scratchpad.Decimal.Floating
import Scratchpad.Shell.Pattern

/-!
# Programs of the stream editor

A program of the stream editor is a list of edits, each an action for some of the lines. Blocks and
jumps are kept as the places in the list to go on at.
-/

namespace Scratchpad.Shell.Sed

/-- A pattern with the text it was made of, and how that is to be taken. -/
structure Expression where
  text : Bytes
  anyCase : Bool
  byLine : Bool
  pattern : Pattern

/-- Which line an edit begins or ends at. A pattern that is missing stands for the last one used. -/
inductive Address
  | line (n : Nat)
  | every (first step : Nat)
  | last
  | like (e : Option Expression)
  | after (n : Nat)
  | multiple (n : Nat)

/-- A change of case in a replacement. -/
inductive Casing
  | upper
  | lower
  | upperOnce
  | lowerOnce
  | plain
deriving DecidableEq

/-- A piece of a replacement. -/
inductive Insert
  | text (bytes : Bytes)
  | matched (group : Nat)
  | casing (c : Casing)

/-- A substitution: of the `nth` match or from it on. The line may be shown, and may be taken for a command
that gives the line; `early` says that it is shown before. -/
structure Substitution where
  pattern : Option Expression
  insertion : List Insert
  nth : Option Nat
  all : Bool
  shows : Bool
  performs : Bool
  early : Bool
  target : Option Bytes

inductive Action
  | substitute (s : Substitution)
  | recode (table : List (UInt8 × UInt8))
  | delete
  | deleteLine
  | show
  | showLine
  | showVisible (width : Option Nat)
  | quit (code : Nat) (silent : Bool)
  | number
  | next
  | nextInto
  | hold
  | holdInto
  | fetch
  | fetchInto
  | exchange
  | append (text : Bytes)
  | insert (text : Bytes)
  | change (text : Bytes)
  | readFile (name : Bytes)
  | readLine (name : Bytes)
  | writeFile (name : Bytes) (line : Bool)
  | fileName
  | perform (command : Option Bytes)
  | clear
  | open'
  | close
  | label (name : Bytes)
  | jump (name : Bytes)
  | jumpIf (changed : Bool) (name : Bytes)
  | nothing

structure Edit where
  first : Option Address
  second : Option Address
  negated : Bool
  action : Action

/-- What is wrong with a program, and how many bytes of it are left behind the place where it was
found, or behind the opening of a block that is never closed. -/
inductive Fault
  | at (text : String) (left : Nat)
  | opened (text : String) (left : Nat)
  | classPlace
  | label (name : Bytes)

/-- How a program is to be read: with extended expressions, and with nothing in it that reaches beyond
the editor. -/
structure Reading where
  extended : Bool
  confined : Bool := false

def fail {α : Type} (text : String) (rest : Bytes) : Except Fault α :=
  .error (.at text rest.length)

def isBlank (b : UInt8) : Bool :=
  Tools.isSpace b && b ≠ newline

def skipBlanks (cs : Bytes) : Bytes :=
  cs.dropWhile isBlank

/-! ## Texts -/

/-- The bytes up to a mark that is not escaped or in brackets, and what follows it. An escaped mark
loses its escape, and in a pattern an escaped `n` is a newline. Without the mark, what follows is
what was not read. -/
def upTo (mark : UInt8) (isPattern : Bool) : Nat → Bytes → Bytes → Except Bytes (Bytes × Bytes)
  | 0, _, rest => .error rest
  | _, _, [] => .error []
  | fuel + 1, acc, b :: r =>
    if b = mark then .ok (acc.reverse, r)
    else if b = newline && isPattern then .error (b :: r)
    else if b = 0x5C then
      match r with
      | [] => .error []
      | c :: r =>
        if c = mark then
          if isPattern || c ≠ 0x26 then upTo mark isPattern fuel (c :: acc) r
          else upTo mark isPattern fuel (c :: b :: acc) r
        else if c = 0x6E && isPattern then upTo mark isPattern fuel (newline :: acc) r
        else if c = newline && isPattern then upTo mark isPattern fuel (c :: acc) r
        else upTo mark isPattern fuel (c :: b :: acc) r
    else if b = 0x5B && isPattern then
      let (inside, rest) := bracket r
      match rest with
      | [] => .error []
      | _ =>
        if (r.take (r.length - rest.length)).contains newline then
          .error (r.dropWhile (· ≠ newline))
        else upTo mark isPattern fuel (inside.reverse ++ b :: acc) rest
    else upTo mark isPattern fuel (b :: acc) r
where
  /-- A set behind its opening bracket with the closing one, and what follows. -/
  bracket (r : Bytes) : Bytes × Bytes :=
    let (front, r) : Bytes × Bytes := match r with
      | 0x5E :: 0x5D :: r => ([0x5E, 0x5D], r)
      | 0x5E :: r => ([0x5E], r)
      | 0x5D :: r => ([0x5D], r)
      | r => ([], r)
    let (body, rest) := members (r.length + 1) r
    (front ++ body, rest)
  /-- The members of a set, with the closing bracket. -/
  members : Nat → Bytes → Bytes × Bytes
    | 0, r => ([], r)
    | _, [] => ([], [])
    | fuel + 1, b :: r =>
      if b = 0x5D then ([b], r)
      else
        match b, r with
        | 0x5B, mark :: more =>
          if [0x3A, 0x2E, 0x3D].contains mark then
            match Pattern.bracketName mark [] more with
            | .ok (name, rest) =>
              let (body, rest) := members fuel rest
              (0x5B :: mark :: name ++ mark :: 0x5D :: body, rest)
            | .error _ => ([], [])
          else
            let (body, rest) := members fuel r
            (b :: body, rest)
        | 0x5C, 0x6E :: more =>
          let (body, rest) := members fuel more
          (newline :: body, rest)
        | _, r =>
          let (body, rest) := members fuel r
          (b :: body, rest)

/-- The byte that an escape for a code stands for, and what follows it. -/
def codeEscape? (c : UInt8) (r : Bytes) : Option (UInt8 × Bytes) :=
  let read (base size : Nat) : Option (UInt8 × Bytes) :=
    let digits := (r.take size).takeWhile fun b =>
      (Floating.digitValue? base (Char.ofNat b.toNat)).isSome
    if digits = [] then none
    else
      some (UInt8.ofNat ((Floating.digits base (digits.map fun b => Char.ofNat b.toNat)).1 % 256),
        r.drop digits.length)
  match Char.ofNat c.toNat with
  | 'a' => some (7, r)
  | 'f' => some (12, r)
  | 'r' => some (13, r)
  | 't' => some (9, r)
  | 'v' => some (11, r)
  | 'd' => read 10 3
  | 'o' => read 8 3
  | 'x' => read 16 2
  | 'c' =>
    match r with
    | b :: r => some (Tools.toUpper b ^^^ 0x40, r)
    | [] => some (0x5C, [])
  | _ => none

/-- A pattern with its escapes for codes replaced; a sign that comes of one keeps its meaning. -/
def decodePattern : Nat → Bytes → Bytes
  | 0, cs => cs
  | _, [] => []
  | fuel + 1, 0x5C :: c :: r =>
    match codeEscape? c r with
    | some (b, rest) => b :: decodePattern fuel rest
    | none => 0x5C :: c :: decodePattern fuel r
  | fuel + 1, b :: r => b :: decodePattern fuel r

/-- The pattern of a text; an empty one stands for the last one used. -/
def patternOf (how : Reading) (ignoresCase linewise : Bool) (text rest : Bytes) :
    Except Fault (Option Expression) :=
  if text = [] then
    if ignoresCase || linewise then fail "cannot specify modifiers on empty regexp" rest
    else .ok none
  else
    let text := decodePattern (text.length + 1) text
    match Pattern.ofRegex (if how.extended then .extended else .basic) text with
    | .ok p =>
      let p := if ignoresCase then p.ignoringCase else p
      .ok (some ⟨text, ignoresCase, linewise, if linewise then p.linewise else p⟩)
    | .error .classPlace => .error .classPlace
    | .error f => fail f.message rest

/-- The pieces of a replacement. -/
def inserts : Nat → List Insert → Bytes → List Insert
  | 0, acc, _ => acc.reverse
  | _, acc, [] => acc.reverse
  | fuel + 1, acc, 0x26 :: r => inserts fuel (.matched 0 :: acc) r
  | fuel + 1, acc, 0x5C :: c :: r =>
    if 0x30 ≤ c && c ≤ 0x39 then inserts fuel (.matched (c.toNat - 0x30) :: acc) r
    else
      match Char.ofNat c.toNat with
      | 'n' => inserts fuel (.text [newline] :: acc) r
      | 'U' => inserts fuel (.casing .upper :: acc) r
      | 'L' => inserts fuel (.casing .lower :: acc) r
      | 'u' => inserts fuel (.casing .upperOnce :: acc) r
      | 'l' => inserts fuel (.casing .lowerOnce :: acc) r
      | 'E' => inserts fuel (.casing .plain :: acc) r
      | _ =>
        match codeEscape? c r with
        | some (b, rest) => inserts fuel (.text [b] :: acc) rest
        | none => inserts fuel (.text [c] :: acc) r
  | fuel + 1, acc, b :: r => inserts fuel (.text [b] :: acc) r

/-- The bytes of a list for recoding: escapes stand for one byte each. -/
def recoded (mark : UInt8) : Nat → Bytes → Bytes
  | 0, _ => []
  | _, [] => []
  | fuel + 1, 0x5C :: c :: r =>
    if c = 0x5C then c :: recoded mark fuel r
    else if c = 0x6E then newline :: recoded mark fuel r
    else if c = newline then newline :: recoded mark fuel r
    else
      match codeEscape? c r with
      | some (b, rest) => b :: recoded mark fuel rest
      | none => c :: recoded mark fuel r
  | fuel + 1, b :: r => b :: recoded mark fuel r

/-- Lines of text up to a newline that is not escaped; escapes stand for their bytes. -/
def textLines : Nat → Bytes → Bytes → Bytes × Bytes
  | 0, acc, r => (acc.reverse, r)
  | _, acc, [] => (acc.reverse, [])
  | fuel + 1, acc, b :: r =>
    if b = newline then (acc.reverse, r)
    else if b = 0x5C then
      match r with
      | [] => (acc.reverse, [])
      | 0x6E :: r => textLines fuel (newline :: acc) r
      | c :: r =>
        match codeEscape? c r with
        | some (code, rest) => textLines fuel (code :: acc) rest
        | none => textLines fuel (c :: acc) r
    else textLines fuel (b :: acc) r

/-- The text of an action that adds lines. -/
def addedText (cs : Bytes) : Except Fault (Bytes × Bytes) :=
  let expected := "expected \\ after `a', `c' or `i'"
  let finish (cs : Bytes) : Except Fault (Bytes × Bytes) :=
    let (text, rest) := textLines (cs.length + 1) [] cs
    .ok (text ++ [newline], rest)
  match skipBlanks cs with
  | [] => fail expected []
  | 0x0A :: r => fail expected (0x0A :: r)
  | 0x5C :: r =>
    match skipBlanks r with
    | 0x0A :: r => finish r
    | [] => .ok ([], [])
    | _ => finish r
  | cs => finish cs

/-! ## Addresses -/

def numberOf (cs : Bytes) : Nat × Bytes :=
  let digits := cs.takeWhile Tools.isDigit
  (digits.foldl (fun n b => n * 10 + (b.toNat - 0x30)) 0, cs.drop digits.length)

/-- The marks behind the pattern of an address: of letters in both cases and of several lines. -/
def patternMarks : Bool → Bool → Bytes → Bool × Bool × Bytes
  | _, m, 0x49 :: r => patternMarks true m r
  | i, _, 0x4D :: r => patternMarks i true r
  | i, m, r => (i, m, r)

def address? (how : Reading) (cs : Bytes) : Except Fault (Option (Address × Bytes)) :=
  let pattern (mark : UInt8) (r : Bytes) : Except Fault (Option (Address × Bytes)) :=
    match upTo mark true (r.length + 1) [] r with
    | .error rest => fail "unterminated address regex" rest
    | .ok (text, r) => do
      let (i, m, r) := patternMarks false false r
      let p ← patternOf how i m text r
      return some (.like p, r)
  match cs with
  | 0x24 :: r => .ok (some (.last, r))
  | 0x2F :: r => pattern 0x2F r
  | 0x5C :: mark :: r => pattern mark r
  | b :: _ =>
    if !Tools.isDigit b then .ok none
    else
      let (n, r) := numberOf cs
      match skipBlanks r with
      | 0x7E :: r =>
        let (step, r) := numberOf (skipBlanks r)
        .ok (some (if step = 0 then .line n else .every n step, r))
      | _ => .ok (some (.line n, r))
  | [] => .ok none

/-- The second address of a range, which may count on from the first one. -/
def secondAddress? (how : Reading) (cs : Bytes) : Except Fault (Option (Address × Bytes)) :=
  match cs with
  | 0x2B :: r =>
    if r.head?.any Tools.isDigit then
      let (n, r) := numberOf r
      .ok (some (.after n, r))
    else .ok none
  | 0x7E :: r =>
    if r.head?.any Tools.isDigit then
      let (n, r) := numberOf r
      .ok (some (if n = 0 then .after 0 else .multiple n, r))
    else .ok none
  | cs => address? how cs

/-! ## Actions -/

/-- What may stand behind an action. -/
def finishAction (action : Action) (cs : Bytes) : Except Fault (Action × Bytes) :=
  match skipBlanks cs with
  | [] => .ok (action, [])
  | b :: r =>
    if b = newline || b = 0x3B then .ok (action, r)
    else if b = 0x7D || b = 0x23 then .ok (action, b :: r)
    else fail "extra characters after command" r

/-- The rest of a line, which names a file. -/
def fileName (cs : Bytes) : Except Fault (Bytes × Bytes) :=
  let name := (skipBlanks cs).takeWhile (· ≠ newline)
  if name = [] then fail "missing filename in r/R/w/W commands" []
  else .ok (name, ((skipBlanks cs).drop name.length).drop 1)

/-- A label, up to a blank or a semicolon. -/
def labelOf (stops : UInt8 → Bool) (cs : Bytes) : Bytes × Bytes :=
  let name := (skipBlanks cs).takeWhile fun b => !Tools.isSpace b && !stops b
  (name, (skipBlanks cs).drop name.length)

/-- The flags of a substitution. -/
structure Flags where
  nth : Option Nat := none
  all : Bool := false
  shows : Bool := false
  performs : Bool := false
  early : Bool := false
  ignoresCase : Bool := false
  linewise : Bool := false
  target : Option Bytes := none

/-- What is said of something that reaches beyond the editor where that is not allowed. -/
def confinedText : String := "e/r/w commands disabled in sandbox mode"

def flags (how : Reading) : Nat → Flags → Bytes → Except Fault (Flags × Bytes)
  | 0, f, r => .ok (f, r)
  | _, f, [] => .ok (f, [])
  | fuel + 1, f, b :: r =>
    match Char.ofNat b.toNat with
    | 'g' =>
      if f.all then fail "multiple `g' options to `s' command" r
      else flags how fuel { f with all := true } r
    | 'p' =>
      if f.shows then fail "multiple `p' options to `s' command" r
      else flags how fuel { f with shows := true, early := !f.performs } r
    | 'e' =>
      if how.confined then fail confinedText r
      else flags how fuel { f with performs := true } r
    | 'i' | 'I' => flags how fuel { f with ignoresCase := true } r
    | 'm' | 'M' => flags how fuel { f with linewise := true } r
    | 'w' => do
      if how.confined then fail confinedText r
      let (name, rest) ← fileName r
      return ({ f with target := some name }, rest)
    | '}' | '#' => .ok (f, b :: r)
    | ';' | '\n' => .ok (f, r)
    | c =>
      if c.isDigit then
        let (n, rest) := numberOf (b :: r)
        if f.nth.isSome then fail "multiple number options to `s' command" r
        else if n = 0 then fail "number option to `s' command may not be zero" rest
        else flags how fuel { f with nth := some n } rest
      else if isBlank b then flags how fuel f r
      else fail "unknown option to `s'" r

/-- The last group that a replacement asks for. -/
def lastGroup (insertion : List Insert) : Nat :=
  insertion.foldl (fun n i =>
    match i with
    | .matched g => max n g
    | _ => n) 0

def substitution (how : Reading) (cs : Bytes) : Except Fault (Action × Bytes) :=
  let unterminated {α : Type} (rest : Bytes) : Except Fault α := fail "unterminated `s' command" rest
  match cs with
  | [] => unterminated []
  | mark :: r =>
    match upTo mark true (r.length + 1) [] r with
    | .error rest => unterminated rest
    | .ok (text, r) =>
      match upTo mark false (r.length + 1) [] r with
      | .error rest => unterminated rest
      | .ok (replacement, r) => do
        let (f, rest) ← flags how (r.length + 1) {} r
        let p ← patternOf how f.ignoresCase f.linewise text rest
        let insertion := inserts (replacement.length + 1) [] replacement
        let asked := lastGroup insertion
        if p.any fun p => p.pattern.groupCount < asked then
          fail ("invalid reference \\" ++ asked.repr ++ " on `s' command's RHS") rest
        else
          return (.substitute ⟨p, insertion, f.nth, f.all, f.shows, f.performs, f.early, f.target⟩, rest)

def recoding (cs : Bytes) : Except Fault (Action × Bytes) :=
  let unterminated {α : Type} (rest : Bytes) : Except Fault α := fail "unterminated `y' command" rest
  match cs with
  | [] => unterminated []
  | mark :: r =>
    match upTo mark false (r.length + 1) [] r with
    | .error rest => unterminated rest
    | .ok (source, r) =>
      match upTo mark false (r.length + 1) [] r with
      | .error rest => unterminated rest
      | .ok (target, r) =>
        let source := recoded mark (source.length + 1) source
        let target := recoded mark (target.length + 1) target
        if source.length = target.length then finishAction (.recode (source.zip target)) r
        else fail "strings for `y' command are different lengths" r

/-- Is a text no version, or a later one than this editor's? -/
def isNewer (version : Bytes) : Bool :=
  let (major, r) := numberOf version
  let minor := (numberOf (r.drop 1)).1
  version ≠ [] && (!version.head?.any Tools.isDigit || 4 < major || (major = 4 && 9 < minor))

/-- The action in front of a program. -/
def action (how : Reading) (c : UInt8) (r : Bytes) : Except Fault (Action × Bytes) :=
  let plain (a : Action) : Except Fault (Action × Bytes) := finishAction a r
  let numbered (make : Option Nat → Action) : Except Fault (Action × Bytes) :=
    let r := skipBlanks r
    if r.head?.any Tools.isDigit then
      let (n, rest) := numberOf r
      finishAction (make (some n)) rest
    else finishAction (make none) r
  let labelled (make : Bytes → Action) : Except Fault (Action × Bytes) :=
    let (name, rest) := labelOf (fun b => b = 0x3B || b = 0x7D) r
    finishAction (make name) rest
  if how.confined && (Bytes.ofString "erRwW").contains c then fail confinedText r
  else
  match Char.ofNat c.toNat with
  | 's' => substitution how r
  | 'y' => recoding r
  | 'd' => plain .delete
  | 'D' => plain .deleteLine
  | 'p' => plain .show
  | 'P' => plain .showLine
  | 'l' => numbered .showVisible
  | 'q' => numbered fun n => .quit (n.getD 0 % 256) false
  | 'Q' => numbered fun n => .quit (n.getD 0 % 256) true
  | '=' => plain .number
  | 'n' => plain .next
  | 'N' => plain .nextInto
  | 'h' => plain .hold
  | 'H' => plain .holdInto
  | 'g' => plain .fetch
  | 'G' => plain .fetchInto
  | 'x' => plain .exchange
  | 'F' => plain .fileName
  | 'e' =>
    match skipBlanks r with
    | [] => .ok (.perform none, [])
    | 0x0A :: rest => .ok (.perform none, rest)
    | cs => (addedText cs).map fun (text, rest) => (.perform (some text), rest)
  | 'z' => plain .clear
  | 'a' => (addedText r).map fun (text, rest) => (.append text, rest)
  | 'i' => (addedText r).map fun (text, rest) => (.insert text, rest)
  | 'c' => (addedText r).map fun (text, rest) => (.change text, rest)
  | 'r' => (fileName r).map fun (name, rest) => (.readFile name, rest)
  | 'R' => (fileName r).map fun (name, rest) => (.readLine name, rest)
  | 'w' => (fileName r).map fun (name, rest) => (.writeFile name false, rest)
  | 'W' => (fileName r).map fun (name, rest) => (.writeFile name true, rest)
  | '{' => .ok (.open', r)
  | '}' => plain .close
  | 'b' => labelled .jump
  | 't' => labelled (.jumpIf true)
  | 'T' => labelled (.jumpIf false)
  | ':' =>
    let (name, rest) := labelOf (· = 0x3B) r
    if name = [] then fail "\":\" lacks a label" [] else finishAction (.label name) rest
  | 'v' =>
    let (name, rest) := labelOf (fun b => b = 0x3B || b = 0x7D) r
    if isNewer name then fail "expected newer version of sed" rest else finishAction .nothing rest
  | _ => fail ("unknown command: `" ++ String.ofList (Text.Utf8.lossy [c]) ++ "'") r

/-! ## Programs -/

/-- An edit in front of a program, behind blanks and semicolons. -/
def edit (how : Reading) (cs : Bytes) : Except Fault (Edit × Bytes) := do
  let (first, cs) ← match ← address? how cs with
    | none => pure (none, cs)
    | some (a, rest) => pure (some a, rest)
  let (second, cs) ← match first, skipBlanks cs with
    | some _, 0x2C :: r => do
      match ← secondAddress? how (skipBlanks r) with
      | some (a, rest) => pure (some a, rest)
      | none => fail "unexpected `,'" ((skipBlanks r).drop 1)
    | _, cs => pure (none, cs)
  let cs := skipBlanks cs
  let negated := cs.head? = some 0x21
  let cs := if negated then skipBlanks (cs.drop 1) else cs
  if negated && cs.head? = some 0x21 then fail "multiple `!'s" (cs.drop 1)
  else
    match cs with
    | [] => fail "missing command" []
    | c :: r =>
      let startsAtZero := match first, second with
        | some (.line 0), some (.like _) => false
        | some (.line 0), _ => true
        | _, _ => false
      if startsAtZero then fail "invalid usage of line address 0" r
      else if c = newline || c = 0x3B then fail "missing command" (c :: r)
      else if c = 0x23 then fail "comments don't accept any addresses" r
      else if c = 0x3A && first.isSome then fail ": doesn't want any addresses" r
      else if c = 0x7D && first.isSome then fail "\x7d doesn't want any addresses" r
      else
        let oneOnly := second.isSome && (c = 0x71 || c = 0x51)
        if oneOnly then fail "command only uses one address" r
        else
          let (a, rest) ← action how c r
          return (⟨first, second, negated, a⟩, rest)

/-- Reads a program; `blocks` are the places behind the openings of blocks, told by how much is left
there, and the fuel bounds its length. -/
def edits (how : Reading) : Nat → List Nat → List Edit → Bytes → Except Fault (List Edit)
  | 0, _, acc, _ => .ok acc.reverse
  | fuel + 1, blocks, acc, cs =>
    let cs := cs.dropWhile fun b => Tools.isSpace b || b = 0x3B
    match cs with
    | [] =>
      match blocks with
      | [] => .ok acc.reverse
      | left :: _ => .error (.opened "unmatched `\x7b'" left)
    | 0x23 :: r => edits how fuel blocks acc (r.dropWhile (· ≠ newline))
    | cs => do
      let (e, rest) ← edit how cs
      match e.action with
      | .open' => edits how fuel (rest.length :: blocks) (e :: acc) rest
      | .close =>
        match blocks with
        | [] => fail "unexpected `\x7d'" (cs.drop 1)
        | _ :: blocks => edits how fuel blocks (e :: acc) rest
      | _ => edits how fuel blocks (e :: acc) rest

/-- The first jump to a label that is not there. -/
def strayJump? (program : List Edit) : Option Bytes :=
  let names := program.filterMap fun e =>
    match e.action with
    | .label name => some name
    | _ => none
  program.findSome? fun e =>
    match e.action with
    | .jump name | .jumpIf _ name => if name = [] || names.contains name then none else some name
    | _ => none

def read (how : Reading) (text : Bytes) : Except Fault (Array Edit) := do
  let program ← edits how (text.length + 1) [] [] text
  match strayJump? program with
  | some name => throw (.label name)
  | none => return program.toArray

end Scratchpad.Shell.Sed
