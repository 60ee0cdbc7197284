import Scratchpad.Shell.Format
import Scratchpad.Shell.Runner.Timing

/-!
# Batches of arguments

The program that takes arguments from its input and runs another program with them: as many at a time
as a command may have, or so many, or those of so many lines, or one line in place of a mark.
-/

namespace Scratchpad.Shell

namespace Runner

open Tools (hint)

/-- How arguments are taken from the input and handed on. -/
structure Xargs where
  command : List String := []
  atMost : Option Nat := none
  lines : Option Nat := none
  mark : Option String := none
  separator : Option UInt8 := none
  ending : Option String := none
  source : Option String := none
  slot : Option String := none
  room : Nat := 131072
  traces : Bool := false
  asks : Bool := false
  skipsEmpty : Bool := false
  exits : Bool := false
  warnings : List String := []

namespace Xargs

def forms : List OptionForm :=
  [.flag '0' "null", .valued 'a' "arg-file", .valued 'd' "delimiter", ⟨some 'e', "eof", .perhaps⟩,
    .valued 'E' "E", ⟨some 'i', "replace", .perhaps⟩, .valued 'I' "I",
    ⟨some 'l', "max-lines", .perhaps⟩, .valued 'L' "L", .valued 'n' "max-args",
    .flag 'o' "open-tty", .flag 'p' "interactive", .flag 'r' "no-run-if-empty",
    .valued 's' "max-chars", .flag 't' "verbose", .longFlag "show-limits", .flag 'x' "exit",
    .valued 'P' "max-procs", .longValued "process-slot-var"]

/-- A number that an option takes, which has a least value. -/
def number (letter : Char) (least : Int) (text : String) : Except String Nat :=
  let shown := "for -" ++ String.singleton letter ++ " option"
  match Tools.integer? (String.ofList (text.toList.dropWhile Floating.isSpace)) with
  | none => .error (hint "xargs" ("invalid number \"" ++ text ++ "\" " ++ shown))
  | some n =>
    if n < least then
      .error (hint "xargs" ("value " ++ text ++ " " ++ shown ++ " should be >= " ++ toString least))
    else .ok n.toNat

/-- The byte that a text stands for that parts arguments. -/
def separatorOf (text : String) : Except String UInt8 :=
  match Bytes.ofString text, text.toList with
  | [b], _ => .ok b
  | _, '\\' :: r =>
    match Format.escape .narrow false r with
    | some ([b], []) => .ok b
    | _ =>
      .error ("xargs: Invalid escape sequence " ++ text ++ " in input delimiter specification.")
  | _, _ =>
    .error ("xargs: Invalid input delimiter specification " ++ text ++ ": the delimiter must be " ++
      "either a single character or an escape sequence starting with \\.")

/-- Of options that do not go together the last one counts. -/
def insteadOf (x : Xargs) (used option lost : String) : Xargs :=
  { x with warnings := x.warnings ++ ["xargs: warning: options " ++ option ++ " and " ++ used ++
      " are mutually exclusive, ignoring previous " ++ lost ++ " value"] }

def takeMark (x : Xargs) (mark : String) : Xargs :=
  let used := "--replace/-I/-i"
  let x := if x.lines.isSome then
      { x.insteadOf used "--max-lines" "--max-lines" with lines := none } else x
  let x := if x.atMost.isSome then
      { x.insteadOf used "--max-args" "--max-args" with atMost := none } else x
  { x with mark := some mark }

def takeLines (x : Xargs) (used : String) (n : Nat) : Xargs :=
  let x := if x.atMost.isSome then
      { x.insteadOf used "--max-args" "--max-args" with atMost := none } else x
  let x := if x.mark.isSome then
      { x.insteadOf used "--replace" "--replace" with mark := none } else x
  { x with lines := some n }

def takeMost (x : Xargs) (n : Nat) : Xargs :=
  let used := "--max-args/-n"
  let x := if x.lines.isSome then
      { x.insteadOf used "--max-lines" "--max-lines" with lines := none } else x
  if x.mark.isSome then
    if n = 1 then x
    else { x.insteadOf used "--replace" "--replace" with mark := none, atMost := some n }
  else { x with atMost := some n }

/-- Takes one option. -/
def take (x : Xargs) (name value : String) : Except String Xargs :=
  match name with
  | "null" => .ok { x with separator := some 0 }
  | "arg-file" => .ok { x with source := some value }
  | "delimiter" => (separatorOf value).map fun b => { x with separator := some b }
  | "E" | "eof" => .ok { x with ending := if value = "" then none else some value }
  | "replace" => .ok (x.takeMark (if value = "" then "\x7b\x7d" else value))
  | "I" => .ok (x.takeMark value)
  | "max-lines" =>
    if value = "" then .ok (x.takeLines "--max-lines/-l" 1)
    else (number 'l' 1 value).map (x.takeLines "--max-lines/-l")
  | "L" => (number 'L' 1 value).map (x.takeLines "-L")
  | "max-args" => (number 'n' 1 value).map x.takeMost
  | "max-chars" =>
    match Tools.integer? value with
    | some n =>
      if n < 1 then
        .ok { x with
          room := 1
          warnings := x.warnings ++
            ["xargs: value " ++ value ++ " for -s option should be >= 1"] }
      else .ok { x with room := min n.toNat 131072 }
    | none => (number 's' 1 value).map fun _ => x
  | "max-procs" => (number 'P' 0 value).map fun _ => x
  | "process-slot-var" => .ok { x with slot := some value }
  | "no-run-if-empty" => .ok { x with skipsEmpty := true }
  | "verbose" => .ok { x with traces := true }
  | "interactive" => .ok { x with asks := true, traces := true }
  | "exit" => .ok { x with exits := true }
  | _ => .ok x

def ofArgs (args : List String) : Except String Xargs := do
  let (found, rest) ← leading "xargs" forms args
  let x ← found.foldlM (fun (x : Xargs) (name, value) => x.take name value) ({} : Xargs)
  return { x with
    command := if rest = [] then ["echo"] else rest
    ending := if x.separator.isSome then none else x.ending }

end Xargs

/-! ## Arguments -/

/-- What is found in the input: an argument, the end of a line, something to be told, or a fault after
which nothing is read. -/
inductive Item
  | word (bytes : Bytes)
  | endOfLine
  | warning (text : String)
  | fault (text : String)
deriving DecidableEq

/-- What a reader of arguments is inside of. -/
inductive Quote
  | gap
  | none
  | inside (mark : UInt8)
  | escape
deriving DecidableEq

/-- How arguments are read: whole lines or words, up to which text, and how long they may be. -/
structure Manner where
  whole : Bool
  ending : Option Bytes
  longest : Nat

/-- A reader of arguments: what it is inside of, the argument at hand, reversed, whether quotes stood in
its line, whether the byte before was a blank, and whether a null byte was seen. -/
structure Reader where
  quote : Quote := .gap
  current : Bytes := []
  quoted : Bool := false
  afterBlank : Bool := false
  sawNull : Bool := false

def unmatched (mark : UInt8) : Item :=
  .fault ("unmatched " ++ (if mark = 0x27 then "single" else "double") ++
    " quote; by default quotes are special to xargs unless you use the -0 option")

/-- An argument ends at its first null byte. -/
def Reader.word (r : Reader) : Item :=
  .word (r.current.reverse.takeWhile (· ≠ 0))

/-- The arguments in some bytes: quotes and backslashes keep blanks. -/
def itemsOf (m : Manner) (r : Reader) : Bytes → List Item
  | [] =>
    if r.current = [] then []
    else
      match r.quote with
      | .inside mark => [unmatched mark]
      | _ => if m.ending = some r.current.reverse then [] else [r.word]
  | b :: rest =>
    let blank := b = 0x20 || b = 9
    let next := { r with afterBlank := blank }
    let keep (quote : Quote) : List Item :=
      let warning := if b = 0 && !r.sawNull then
          [Item.warning ("xargs: WARNING: a NUL character occurred in the input.  It cannot be " ++
            "passed through in the argument list.  Did you mean to use the --null option?")]
        else []
      if m.longest ≤ r.current.length then warning ++ [.fault "argument line too long"]
      else
        warning ++ itemsOf m
          { next with quote, current := b :: r.current, sawNull := r.sawNull || b = 0 } rest
    match r.quote with
    | .escape => keep .none
    | .inside mark =>
      if b = newline then [unmatched mark]
      else if b = mark then itemsOf m { next with quote := .none, quoted := true } rest
      else keep r.quote
    | quote =>
      if quote = .gap && (blank || b = newline || (11 ≤ b && b ≤ 13)) then itemsOf m next rest
      else if b = newline then
        if r.current = [] && !r.quoted then itemsOf m { next with quote := .gap } rest
        else if m.ending = some r.current.reverse then []
        else
          r.word :: (if r.afterBlank then [] else [Item.endOfLine]) ++
            itemsOf m { sawNull := r.sawNull } rest
      else if blank && !m.whole then
        if m.ending = some r.current.reverse then []
        else r.word :: itemsOf m { next with quote := .gap, current := [] } rest
      else if b = 0x5C then itemsOf m { next with quote := .escape } rest
      else if b = 0x27 || b = 0x22 then
        itemsOf m { next with quote := .inside b, quoted := true } rest
      else keep .none

/-- The arguments between separators. -/
def itemsBetween (longest : Nat) (separator : UInt8) (bytes : Bytes) : List Item :=
  (partsOf separator bytes).flatMap fun part =>
    if longest < part.length then [.fault "argument line too long"]
    else [.word (part.takeWhile (· ≠ 0)), .endOfLine]

/-! ## Commands -/

/-- What is done next: a command is run, or something is told, or all is given up. -/
inductive Errand
  | run (words : List String)
  | warn (text : String)
  | quit

/-- The arguments gathered so far, the last first, their number, the room they take, the lines they
come from, and whether anything was run. -/
structure Gathered where
  words : List String := []
  count : Nat := 0
  used : Nat := 0
  lines : Nat := 0
  ran : Bool := false

namespace Xargs

/-- The room that an argument takes. -/
def roomOf (word : String) : Nat :=
  word.utf8ByteSize + 1

def commandRoom (x : Xargs) : Nat :=
  x.command.foldl (fun n word => n + roomOf word) 0

/-- A text with another one in place of every mark. -/
def fill (mark value text : String) : String :=
  if mark = "" then text else value.intercalate (text.splitOn mark)

def tooLong : String := "xargs: argument list too long"

def roomless : String := "xargs: cannot fit single argument within argument list size limit"

/-- The errands for arguments that are added to the command. -/
def gather (x : Xargs) : Gathered → List Item → List Errand
  | g, [] =>
    if g.count ≠ 0 || (!x.skipsEmpty && !g.ran) then [.run (x.command ++ g.words.reverse)] else []
  | g, .warning text :: rest => .warn text :: gather x g rest
  | g, .fault text :: _ =>
    .warn ("xargs: " ++ text) ::
      (if g.count = 0 || x.exits then [] else [.run (x.command ++ g.words.reverse)]) ++ [.quit]
  | g, .endOfLine :: rest =>
    let lines := g.lines + 1
    if x.lines.any (· ≤ lines) then
      .run (x.command ++ g.words.reverse) :: gather x { ran := true } rest
    else gather x { g with lines } rest
  | g, .word bytes :: rest =>
    let word := String.ofList (Text.Utf8.lossy bytes)
    let isTooMuch := x.room < x.commandRoom + g.used + roomOf word
    if isTooMuch && g.count = 0 then
      [.warn roomless, .quit]
    else if isTooMuch && x.exits && (x.lines.isSome || x.atMost.isSome) then [.warn tooLong, .quit]
    else
      let (before, g) :=
        if isTooMuch then
          ([Errand.run (x.command ++ g.words.reverse)], { lines := g.lines, ran := true })
        else ([], g)
      let g : Gathered :=
        { g with words := word :: g.words, count := g.count + 1, used := g.used + roomOf word }
      if x.atMost = some g.count then
        let run := Errand.run (x.command ++ g.words.reverse)
        before ++ match rest with
          | .fault text :: _ => [.warn ("xargs: " ++ text), run, .quit]
          | rest => run :: gather x { lines := g.lines, ran := true } rest
      else before ++ gather x g rest

/-- The errands for lines that stand in place of a mark. -/
def replace (x : Xargs) (mark : String) (items : List Item) : List Errand :=
  items.flatMap fun
    | .word bytes =>
      let value := String.ofList (Text.Utf8.lossy bytes)
      let words := x.command.take 1 ++ (x.command.drop 1).map (fill mark value)
      if (words.drop 1).any fun word => x.room ≤ word.utf8ByteSize then
        [.warn "xargs: command too long", .quit]
      else if x.room < words.foldl (fun n word => n + roomOf word) 0 then [.warn tooLong, .quit]
      else [.run words]
    | .endOfLine => []
    | .warning text => [.warn text]
    | .fault text => [.warn ("xargs: " ++ text), .quit]

/-- All errands for an input. -/
def errands (x : Xargs) (input : Bytes) : List Errand :=
  let taken := if x.mark.isSome then 0 else x.commandRoom
  let longest := x.room - taken - 1
  let items := match x.separator with
    | some b => itemsBetween longest b input
    | none => itemsOf ⟨x.mark.isSome, x.ending.map Bytes.ofString, longest⟩ {} input
  match x.mark with
  | some mark => x.replace mark items
  | none =>
    if x.room < taken then
      [.warn roomless, .quit]
    else x.gather {} items

end Xargs
end Runner
end Scratchpad.Shell
