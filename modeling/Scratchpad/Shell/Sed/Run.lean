import Scratchpad.Shell.Sed.Trace
import Scratchpad.Shell.Tools.Basic

/-!
# Running the stream editor

Every line is taken as the text at hand through the edits of a program, and is written at the end
unless the editor is silent. Jumps may go on for ever, so the number of steps is bounded by fuel; an
editor that runs out of it does not end.
-/

namespace Scratchpad.Shell.Sed

/-- A line that is to come, whether it is ended, and the file it is in. -/
structure Line where
  text : Bytes
  ended : Bool
  file : String

/-- Where a range stands that belongs to an edit: not begun, up to some line, or up to a line that
the second address fits. -/
inductive Range
  | outside
  | upTo (n : Nat)
  | open'

/-- The lines that were written to some place, and those that are left of what is read from one. -/
abbrev Shelf := List (Bytes × List Bytes)

structure Desk where
  text : Bytes
  ended : Bool
  file : String
  hold : Bytes
  number : Nat
  input : List Line
  out : List (Outlet × Bytes)
  lacksEnd : Bool
  mark : UInt8
  queue : List Bytes
  changed : Bool
  ranges : Array Range
  last : Option Pattern
  written : Shelf
  reading : Shelf
  files : Files.System
  depth : Int
  code : Option Nat
  fault : Option String

/-- What comes of a command that a shell was told: what it wrote to either outlet, and the files. -/
structure Echo where
  out : Bytes
  err : Bytes
  files : Files.System

/-- What the editor was asked for besides its program, and the shell that does commands for it. -/
structure Manner where
  silent : Bool
  mark : UInt8
  width : Nat
  files : Files.System
  input : Bytes
  traces : Bool := false
  shell : Files.System → Bytes → Echo := fun files _ => ⟨[], [], files⟩

namespace Desk

/-- Writes bytes, behind the end that the last line lacks. -/
def write (d : Desk) (bytes : Bytes) : Desk :=
  { d with
    out := (.out, if d.lacksEnd then d.mark :: bytes else bytes) :: d.out
    lacksEnd := false }

/-- Tells something of what is being done. -/
def tell (d : Desk) (text : String) (bytes : Bytes) : Desk :=
  { d with out := (.out, Bytes.ofString text ++ bytes ++ [newline]) :: d.out }

def tellText (d : Desk) : Desk := d.tell "PATTERN: " (traced d.text)

def tellHold (d : Desk) : Desk := d.tell "HOLD:    " (traced d.hold)

/-- Writes the text at hand, with an end if the line had one. -/
def writeLine (d : Desk) (text : Bytes) : Desk :=
  if d.ended then d.write (text ++ [d.mark]) else { d.write text with lacksEnd := true }

def writeTo (d : Desk) (name : Bytes) (text : Bytes) : Desk :=
  match String.ofList (Text.Utf8.lossy name) with
  | "/dev/stdout" => d.writeLine text
  | "/dev/stderr" => { d with out := (.err, text ++ [d.mark]) :: d.out }
  | _ =>
    let before := (d.written.lookup name).getD []
    { d with written := (name, (text ++ [d.mark]) :: before) :: d.written.filter (·.1 ≠ name) }

/-- What waits to be written behind the line. -/
def flush (d : Desk) : Desk :=
  { d.queue.reverse.foldl write d with queue := [] }

def isLast (d : Desk) : Bool :=
  d.input.isEmpty

/-- Takes up the next line. -/
def advance (d : Desk) (line : Line) (rest : List Line) : Desk :=
  { d with text := line.text, ended := line.ended, file := line.file, number := d.number + 1, input := rest }

end Desk

/-! ## Addresses -/

/-- Does an address fit the line at hand? An empty pattern is the last one used. -/
def fits (d : Desk) : Address → Desk × Bool
  | .line n => (d, d.number = n)
  | .every first step => (d, first ≤ d.number && (d.number - first) % step = 0)
  | .last => (d, d.isLast)
  | .like (some e) => ({ d with last := some e.pattern }, e.pattern.isIn d.text)
  | .like none =>
    match d.last with
    | some p => (d, p.isIn d.text)
    | none => ({ d with fault := some "no previous regular expression" }, false)
  | .after _ | .multiple _ => (d, false)

/-- The line at which a range ends that begins at some line, if that can be told. -/
def rangeEnd? (start : Nat) : Address → Option Nat
  | .line n => some n
  | .after n => some (start + n)
  | .multiple n => some ((start / n + 1) * n)
  | _ => none

/-- Does the range of an edit hold the line at hand? -/
def inRange (d : Desk) (i : Nat) (first second : Address) : Desk × Bool :=
  let set (d : Desk) (r : Range) : Desk := { d with ranges := d.ranges.setIfInBounds i r }
  let close (d : Desk) : Desk × Bool :=
    let (d, ends) := fits d second
    (if ends then set d .outside else d, true)
  match d.ranges.getD i .outside with
  | .open' => close d
  | .upTo n => (if n ≤ d.number then set d .outside else d, d.number ≤ n)
  | .outside =>
    let (d, begins) := fits d first
    if !begins then (d, false)
    else
      match rangeEnd? d.number second with
      | some n => (if d.number < n then set d (.upTo n) else d, true)
      | none => (set d .open', true)

/-- Is an edit for the line at hand? -/
def selects (d : Desk) (i : Nat) (e : Edit) : Desk × Bool :=
  let (d, found) := match e.first, e.second with
    | none, _ => (d, true)
    | some a, none => fits d a
    | some a, some b => inRange d i a b
  (d, found != e.negated)

/-! ## Substitution -/

/-- The casing in force, and the one for the next byte only. -/
structure CaseState where
  mode : Casing
  once : Casing

def lowered (b : UInt8) : UInt8 :=
  if Tools.isUpper b then b + 0x20 else b

def cased (c : Casing) (b : UInt8) : UInt8 :=
  match c with
  | .upper | .upperOnce => Tools.toUpper b
  | .lower | .lowerOnce => lowered b
  | .plain => b

def CaseState.apply (c : CaseState) : Bytes → Bytes × CaseState
  | [] => ([], c)
  | b :: r =>
    let first := if c.once = .plain then cased c.mode b else cased c.once b
    (first :: r.map (cased c.mode), { c with once := .plain })

/-- What stands for a match. -/
def replacement (insertion : List Insert) (b e : Spot) : Bytes :=
  (insertion.foldl (fun (acc : List Bytes × CaseState) i =>
    let (done, c) := acc
    let add (bytes : Bytes) : List Bytes × CaseState :=
      let (bytes, c) := c.apply bytes
      (bytes :: done, c)
    match i with
    | .text bytes => add bytes
    | .matched 0 => add (b.upTo e)
    | .matched g => add ((e.captured? g).getD [])
    | .casing .upperOnce => (done, { c with once := .upperOnce })
    | .casing .lowerOnce => (done, { c with once := .lowerOnce })
    | .casing mode => (done, ⟨mode, .plain⟩)) ([], ⟨.plain, .plain⟩)).1.reverse.flatten

/-- Replaces matches from one of them on. -/
def replace (p : Pattern) (insertion : List Insert) (n : Nat) (all : Bool) (text : Bytes) :
    Option Bytes :=
  let found := (p.findAll text).drop (n - 1)
  let chosen := if all then found else found.take 1
  if chosen.isEmpty then none
  else
    let (out, spot) := chosen.foldl (fun (acc : List Bytes × Spot) (b, e) =>
      (replacement insertion b e :: acc.2.upTo b :: acc.1, e)) ([], .ofText text)
    some (out.reverse.flatten ++ spot.rest)

/-- One replacement without looking for further matches. -/
def replaceFirst (p : Pattern) (insertion : List Insert) (text : Bytes) : Option Bytes :=
  (p.find? (.ofText text)).map fun (b, e) =>
    (Spot.ofText text).upTo b ++ replacement insertion b e ++ e.rest

/-- Lets a shell do a command, and gives what it wrote. -/
def perform (m : Manner) (d : Desk) (command : Bytes) : Desk × Bytes :=
  let echo := m.shell d.files command
  ({ d with
    files := echo.files
    out := if echo.err = [] then d.out else (.err, echo.err) :: d.out }, echo.out)

/-- Takes the text at hand for a command, and puts what it writes in its place, as a line that is ended. -/
def performText (m : Manner) (d : Desk) : Desk :=
  let (d, out) := perform m d d.text
  { d with text := if out.getLast? = some d.mark then out.dropLast else out, ended := true }

/-- Tells where a pattern is found first, with its groups. -/
def tellMatch (d : Desk) (p : Pattern) : Desk :=
  match p.find? (.ofText d.text) with
  | none => d
  | some (b, e) =>
    let line (n : Nat) (start stop : Int) (bytes : Bytes) (d : Desk) : Desk :=
      d.tell ("  regex[" ++ n.repr ++ "] = " ++ toString start ++ "-" ++ toString stop ++ " '")
        (bytes ++ [0x27])
    let d := line 0 b.passed e.passed (b.upTo e) (d.tell "MATCHED REGEX REGISTERS" [])
    (List.range p.groupCount).foldl (fun d i =>
      match e.groups.lookup (i + 1) with
      | some (start, bytes) => line (i + 1) start (start + bytes.length) bytes d
      | none => d) d

def substitute (m : Manner) (d : Desk) (s : Substitution) : Desk :=
  match (s.pattern.map Expression.pattern).or d.last with
  | none => { d with fault := some "no previous regular expression" }
  | some p =>
    let d := { d with last := some p }
    let d := if m.traces then tellMatch d p else d
    let nth := s.nth.getD 1
    let made := if nth = 1 && !s.all then replaceFirst p s.insertion d.text
      else replace p s.insertion nth s.all d.text
    match made with
    | none => d
    | some text =>
      let d := { d with text, changed := true }
      let d := if s.shows && s.early then d.writeLine text else d
      let d := if s.performs then performText m d else d
      let d := if s.shows && !s.early then d.writeLine d.text else d
      match s.target with
      | some name => d.writeTo name d.text
      | none => d

/-! ## Visible text -/

def visibleByte (b : UInt8) : String :=
  if b = 0x5C then "\\\\"
  else if Quoting.isPrintable b then Quoting.printed b
  else Quoting.escaped b

/-- A text with escapes, in lines that are not too wide; a backslash goes on in the next one. -/
def visibleText (width : Nat) (text : Bytes) : Bytes :=
  let (lines, row) := text.foldl (fun (acc : List String × String) b =>
    let shown := visibleByte b
    if 0 < width && width - 1 < acc.2.length + shown.length then ((acc.2 ++ "\\\n") :: acc.1, shown)
    else (acc.1, acc.2 ++ shown)) ([], "")
  Bytes.ofString (String.join lines.reverse ++ row ++ "$\n")

/-! ## Steps -/

/-- Where an editor goes on: at an edit, with the end of a line, which may not be written, with the
same line again, or nowhere. -/
inductive Onward
  | at (i : Nat)
  | finish
  | drop
  | again
  | stop (silent : Bool)

def placeOf (program : Array Edit) (name : Bytes) : Nat :=
  if name = [] then program.size
  else
    ((program.toList.findIdx? fun e =>
      match e.action with
      | .label n => n = name
      | _ => false)).getD program.size

/-- The place of the end of the block that an edit opens. -/
def endOfBlock (program : Array Edit) (i : Nat) : Nat :=
  let rec go : Nat → Nat → Nat → Nat
    | 0, _, j => j
    | fuel + 1, depth, j =>
      match program[j]? with
      | none => j
      | some e =>
        match e.action with
        | .open' => go fuel (depth + 1) (j + 1)
        | .close => if depth = 0 then j else go fuel (depth - 1) (j + 1)
        | _ => go fuel depth (j + 1)
  go (program.size + 1) 0 (i + 1)

/-- The contents of a file that is read at the side. -/
def contents (m : Manner) (d : Desk) (name : Bytes) : Bytes :=
  match String.ofList (Text.Utf8.lossy name) with
  | "/dev/stdin" => m.input
  | _ => (d.files.read name).toOption.getD []

/-- Does a file that is read at the side stand for the lines that are to come? -/
def readsInput (d : Desk) (name : Bytes) : Bool :=
  name = Bytes.ofString "/dev/stdin" && d.input.any (·.file = "-")

def act (program : Array Edit) (m : Manner) (i : Nat) (e : Edit) (d : Desk) : Desk × Onward :=
  let on (d : Desk) : Desk × Onward := (d, .at (i + 1))
  match e.action with
  | .substitute s => on (substitute m d s)
  | .recode table => on { d with text := d.text.map fun b => (table.lookup b).getD b }
  | .delete => (d, .drop)
  | .deleteLine =>
    if d.text.contains newline then
      ({ d with text := (d.text.dropWhile (· ≠ newline)).drop 1 }, .again)
    else (d, .drop)
  | .show => on (d.writeLine d.text)
  | .showLine =>
    let line := d.text.takeWhile (· ≠ newline)
    on (if line.length < d.text.length then d.write (line ++ [newline]) else d.writeLine d.text)
  | .showVisible width => on (d.write (visibleText (width.getD m.width) d.text))
  | .quit code silent => ({ d with code := some code }, .stop silent)
  | .number => on (d.write (Bytes.ofString (d.number.repr ++ "\n")))
  | .next =>
    match d.input with
    | [] => ({ d with code := some 0 }, .stop false)
    | line :: rest =>
      let d := if m.silent then d else d.writeLine d.text
      on (d.flush.advance line rest)
  | .nextInto =>
    match d.input with
    | [] => ({ d with code := some 0 }, .stop false)
    | line :: rest =>
      let text := d.text
      let d := d.flush.advance line rest
      on { d with text := text ++ newline :: d.text }
  | .hold => on { d with hold := d.text }
  | .holdInto => on { d with hold := d.hold ++ newline :: d.text }
  | .fetch => on { d with text := d.hold }
  | .fetchInto => on { d with text := d.text ++ newline :: d.hold }
  | .exchange => on { d with text := d.hold, hold := d.text }
  | .append text => on { d with queue := text :: d.queue }
  | .insert text => on (d.write text)
  | .change text =>
    let closes := match e.second, d.ranges.getD i .outside with
      | some _, .outside => true
      | some _, _ => e.negated
      | none, _ => true
    (if closes then d.write text else d, .drop)
  | .readFile name =>
    if readsInput d name then
      on { d with
        input := []
        queue := (d.input.map fun line =>
          if line.ended then line.text ++ [newline] else line.text).reverse ++ d.queue }
    else on { d with queue := contents m d name :: d.queue }
  | .readLine name =>
    if readsInput d name then
      on { d with
        input := d.input.drop 1
        queue := (d.input.take 1).map (fun line =>
          if line.ended then line.text ++ [newline] else line.text) ++ d.queue }
    else
    let lines := (d.reading.lookup name).getD (Tools.linesWithEnds (contents m d name))
    let d := { d with reading := (name, lines.drop 1) :: d.reading.filter (·.1 ≠ name) }
    on { d with queue := lines.take 1 ++ d.queue }
  | .writeFile name line =>
    on (d.writeTo name (if line then d.text.takeWhile (· ≠ newline) else d.text))
  | .fileName => on (d.write (Bytes.ofString (d.file ++ "\n")))
  | .perform none => on (performText m d)
  | .perform (some command) =>
    let (d, out) := perform m d command
    on (d.write out)
  | .clear => on { d with text := [] }
  | .open' | .close | .label _ | .nothing => on d
  | .jump name => (d, .at (placeOf program name))
  | .jumpIf changed name =>
    if d.changed = changed then ({ d with changed := false }, .at (placeOf program name))
    else on { d with changed := false }

/-- Tells what an action has left. -/
def tellAfter (d : Desk) : Action → Desk
  | .substitute _ | .recode _ | .fetchInto | .clear => d.tellText
  | .hold | .holdInto | .fetch => d.tellHold
  | .exchange => d.tellText.tellHold
  | _ => d

/-- What happens at one place of a program. -/
def step (program : Array Edit) (m : Manner) (i : Nat) (d : Desk) : Desk × Onward :=
  match program[i]? with
  | none => (d, .finish)
  | some e =>
    let d := if m.traces && !(e.action matches .nothing) then
        let (line, depth) := e.shown d.depth
        { d with out := (.out, Bytes.ofString "COMMAND: " ++ line) :: d.out, depth }
      else d
    let (d, chosen) := selects d i e
    if chosen then
      let (d, onward) := act program m i e d
      let d := if m.traces then
          match onward, e.action with
          | .at _, .next | .at _, .nextInto | .again, .deleteLine => d.tellText
          | .at _, action => tellAfter d action
          | _, _ => d
        else d
      (d, onward)
    else
      match e.action with
      | .open' => (d, .at (endOfBlock program i))
      | _ => (d, .at (i + 1))

/-- Tells of a line that begins. -/
def tellLine (m : Manner) (d : Desk) : Desk :=
  if m.traces then
    let name := if d.file = "-" then "STDIN" else d.file
    (d.tell ("INPUT:   '" ++ name ++ "' line " ++ d.number.repr) []).tellText
  else d

/-- Runs a program from a place on. There is no answer when the fuel, which bounds the steps, runs
out. -/
def go (program : Array Edit) (m : Manner) : Nat → Nat → Desk → Option Desk
  | 0, _, _ => none
  | fuel + 1, i, d =>
    let (d, onward) := step program m i d
    if d.fault.isSome then some d
    else
      let nextLine (d : Desk) : Option Desk :=
        match d.input with
        | [] => some d
        | line :: rest => go program m fuel 0 (tellLine m { d.advance line rest with changed := false })
      let shown (d : Desk) : Desk := if m.silent then d else d.writeLine d.text
      let ended (d : Desk) : Desk := if m.traces then d.tell "END-OF-CYCLE:" [] else d
      let action? := program[i]?.map Edit.action
      match onward with
      | .at j => go program m fuel j d
      | .finish => nextLine (shown (ended d)).flush
      | .drop => nextLine (if action? matches some .deleteLine then d.flush else (ended d).flush)
      | .again => go program m fuel 0 d.flush
      | .stop silent =>
        match action? with
        | some (.quit ..) => some (if silent then d else (shown d).flush)
        | some .next => some (ended (shown d)).flush
        | _ => some (shown (ended d)).flush

/-- How many steps an editor is given. -/
def fuel : Nat := 4000000

def emptyDesk (m : Manner) (program : Array Edit) (input : List Line) : Desk where
  text := []
  ended := true
  file := "-"
  hold := []
  number := 0
  input
  out := []
  lacksEnd := false
  mark := m.mark
  queue := []
  changed := false
  ranges := program.map fun e =>
    match e.first with
    | some (.line 0) => .open'
    | _ => .outside
  last := none
  written := program.toList.filterMap fun e =>
    match e.action with
    | .writeFile name _ => some (name, [])
    | .substitute s => s.target.map fun name => (name, [])
    | _ => none
  reading := []
  files := m.files
  depth := 0
  code := none
  fault := none

/-- What becomes of some lines. -/
def run (program : Array Edit) (m : Manner) (input : List Line) : Option Desk :=
  let d := emptyDesk m program input
  match input with
  | [] => some d
  | line :: rest => go program m fuel 0 (tellLine m (d.advance line rest))

/-- The lines of a file. -/
def linesIn (mark : UInt8) (name : String) (bytes : Bytes) : List Line :=
  let parts := partsOf mark bytes
  let cut := bytes.getLast?.any (· ≠ mark)
  parts.zipIdx.map fun (text, i) => ⟨text, !(cut && i + 1 = parts.length), name⟩

/-- Does an edit do the same to every line? -/
def Edit.isForEveryLine (e : Edit) : Bool :=
  let plain : Option Address → Bool
    | none | some (.like (some _)) => true
    | _ => false
  e.second.isNone && plain e.first && match e.action with
    | .substitute s => s.pattern.isSome && s.target.isNone && !s.performs
    | .recode .. | .delete | .show | .open' | .close => true
    | _ => false

end Scratchpad.Shell.Sed
