import Scratchpad.Shell.Tools.Keys

/-!
# Sorted files side by side

The tools that go through two sorted files together: the one that says which lines they share, and
the one that joins the lines with the same key. Both look at every line that they read, and complain
of one that comes before the line in front of it.
-/

namespace Scratchpad.Shell.Tools

open Deed (complaint ofWrites told)

/-! ## Going through two files -/

/-- When lines out of order are complained of: never, once some line had no partner, or at once, and
then nothing more is done. -/
inductive OrderCheck
  | never
  | mildly
  | strictly
deriving DecidableEq

def OrderCheck.ofOptions (found : Options) : OrderCheck :=
  let asked := found.filter fun (name, _) => name = "check-order" || name = "nocheck-order"
  match asked.getLast? with
  | some ("check-order", _) => .strictly
  | some _ => .never
  | none => .mildly

/-- One of two files that are gone through: the line read before the current one, and the lines from
the current one on. -/
structure Half (α : Type) where
  before : Option α
  lines : List α

/-- How far two files have been gone through: whether some line had no partner, which of the files
are known to be out of order, and what has been written, the last first. -/
structure Abreast (α : Type) where
  first : Half α
  second : Half α
  unpaired : Bool := false
  blamed : List Nat := []
  writes : List (Outlet × Bytes) := []

namespace Abreast

variable {α : Type}

def ofLines (first second : List α) : Abreast α where
  first := ⟨none, first⟩
  second := ⟨none, second⟩

def side (s : Abreast α) (file : Nat) : Half α :=
  if file = 1 then s.first else s.second

def setSide (s : Abreast α) (file : Nat) (side : Half α) : Abreast α :=
  if file = 1 then { s with first := side } else { s with second := side }

def say (s : Abreast α) (line : Bytes) : Abreast α :=
  { s with writes := (.out, line) :: s.writes }

end Abreast

/-- How the lines of two files are watched: when, which lines are out of order, and what is said of a
line of a file that is. -/
structure Watch (α : Type) where
  check : OrderCheck
  descends : α → α → Bool
  blame : Nat → α → Bytes

namespace Watch

variable {α : Type}

/-- Looks at two lines that follow each other. What ends the work is an error. -/
def look (w : Watch α) (file : Nat) (a b : α) (s : Abreast α) : Except (Abreast α) (Abreast α) :=
  if w.check = .never || (w.check = .mildly && !s.unpaired) || s.blamed.contains file ||
      !w.descends a b then .ok s
  else
    let s := { s with
      blamed := file :: s.blamed
      writes := (.err, w.blame file b) :: s.writes }
    if w.check = .strictly then .error s else .ok s

/-- Goes on to the next line of a file. At its end the last two lines may be looked at again. -/
def advance (w : Watch α) (again : Bool) (file : Nat) (s : Abreast α) :
    Except (Abreast α) (Abreast α) :=
  let side := s.side file
  match side.lines with
  | a :: b :: rest => w.look file a b (s.setSide file ⟨some a, b :: rest⟩)
  | [a] =>
    let s := s.setSide file ⟨some a, []⟩
    match side.before with
    | some before => if again then w.look file before a s else .ok s
    | none => .ok s
  | [] => .ok s

end Watch

/-- The end of a tool that goes through two files. -/
def Abreast.deed {α : Type} (s : Scene) (tool : String) (unread : Flow)
    (found : Except (Abreast α) (Abreast α)) : Deed :=
  match found with
  | .error a => { ofWrites s a.writes.reverse 1 with unread }
  | .ok a =>
    if a.blamed = [] then { ofWrites s a.writes.reverse 0 with unread }
    else
      { ofWrites s (a.writes.reverse ++ [told (tool ++ ": input is not in sorted order")]) 1 with
        unread }

/-- Goes on with the bytes of two operands. -/
def findingTwo (s : Scene) (tool : String) (blame : Blame) (operands : List String)
    (go : Bytes → Bytes → Flow → Deed) : Deed :=
  match operands with
  | [] => missingOperand s tool
  | [a] => complaint s (hint tool ("missing operand after " ++ Quoting.value a)) 1
  | [a, b] =>
    finding s tool blame [a] fun f =>
      finding { s with input := f.unread } tool blame [b] fun g =>
        match f.texts, g.texts with
        | [(_, first)], [(_, second)] => go first second g.unread
        | _, _ => { ofWrites s ((f.errors ++ g.errors).take 1) 1 with unread := g.unread }
  | _ :: _ :: extra :: _ => extraOperand s tool extra

/-! ## Lines in common -/

/-- How many lines only the first file has, only the second one, and both. -/
structure Tally where
  first : Nat := 0
  second : Nat := 0
  both : Nat := 0

/-- Goes through two files, writing each line as a column; the fuel bounds the lines. -/
def compareSorted (w : Watch Bytes) (column : Nat → Bytes → Option Bytes) :
    Nat → Tally → Abreast Bytes → Except (Abreast Bytes) (Tally × Abreast Bytes)
  | 0, tally, s => .ok (tally, s)
  | fuel + 1, tally, s =>
    let put (n : Nat) (line : Bytes) : Abreast Bytes := (column n line).elim s s.say
    let order := match s.first.lines, s.second.lines with
      | a :: _, b :: _ => compare a b
      | [], _ => .gt
      | _, [] => .lt
    match order, s.first.lines, s.second.lines with
    | _, [], [] => .ok (tally, s)
    | .lt, a :: _, _ => do
      let s ← w.advance true 1 { put 1 a with unpaired := true }
      compareSorted w column fuel { tally with first := tally.first + 1 } s
    | .gt, _, b :: _ => do
      let s ← w.advance true 2 { put 2 b with unpaired := true }
      compareSorted w column fuel { tally with second := tally.second + 1 } s
    | _, _, b :: _ => do
      let s ← w.advance true 1 (put 3 b)
      let s ← w.advance true 2 s
      compareSorted w column fuel { tally with both := tally.both + 1 } s
    | _, _, [] => .ok (tally, s)

/-- Shows which lines two sorted files have in common. -/
def comm (s : Scene) : Deed :=
  reading s "comm" 1 (OptionForm.flags "123" ++ [.longFlag "check-order", .longFlag "nocheck-order",
    .longValued "output-delimiter", .longFlag "total", .flag 'z' "zero-terminated"])
    fun found operands =>
    findingTwo s "comm" plainly operands fun first second unread =>
      let mark := lineEnd found "zero-terminated"
      let as := partsOf mark first
      let bs := partsOf mark second
      let tab := match found.value? "output-delimiter" with
        | some "" => [0]
        | some text => Bytes.ofString text
        | none => [9]
      let shows (n : String) : Bool := !found.has n
      let firstTab := if shows "1" then tab else []
      let secondTab := firstTab ++ if shows "2" then tab else []
      let column (n : Nat) (line : Bytes) : Option Bytes :=
        if !shows n.repr then none
        else some ((if n = 1 then [] else if n = 2 then firstTab else secondTab) ++ line ++ [mark])
      let w : Watch Bytes :=
        { check := .ofOptions found
          descends := fun a b => compare a b == .gt
          blame := fun n _ =>
            Bytes.ofString ("comm: file " ++ n.repr ++ " is not in sorted order\n") }
      let result := compareSorted w column (as.length + bs.length + 1) {} (.ofLines as bs)
      Abreast.deed s "comm" unread (result.map fun (tally, a) =>
        if found.has "total" then
          a.say (tab.intercalate ([tally.first.repr, tally.second.repr, tally.both.repr, "total"].map
            Bytes.ofString) ++ [mark])
        else a)

/-! ## Lines with the same key -/

/-- What `join` shows of a pair of lines: the key, or a field of one of the two files. -/
inductive JoinColumn
  | key
  | field (file n : Nat)

def JoinColumn.ofString (text : String) : Except String JoinColumn :=
  match text.splitOn "." with
  | ["0"] => .ok .key
  | [file, n] =>
    match file, decimal? n.toList with
    | "1", some (n + 1) => .ok (.field 1 n)
    | "2", some (n + 1) => .ok (.field 2 n)
    | "1", _ | "2", _ => .error ("invalid field number: " ++ Quoting.value n)
    | _, _ => .error ("invalid file number in field spec: " ++ Quoting.value text)
  | _ =>
    if ["0", "1", "2"].any fun file => text.startsWith file then
      .error ("invalid field specifier: " ++ Quoting.value text)
    else .error ("invalid file number in field spec: " ++ Quoting.value text)

/-- A line with its number, its key and its fields. -/
structure Row where
  line : Bytes
  number : Nat
  key : Bytes
  fields : List Bytes

def fieldsOf (tab : Option UInt8) (line : Bytes) : List Bytes :=
  match tab with
  | some tab => if line = [] then [] else line.splitOn tab
  | none => (line.splitBy fun a b => Key.isGap a = Key.isGap b).filter fun part =>
      part.head?.any fun b => !Key.isGap b

/-- The rows of a text, with the key in one of the fields. -/
def rowsOf (mark : UInt8) (tab : Option UInt8) (place : Nat) (text : Bytes) : List Row :=
  ((partsOf mark text).zipIdx 1).map fun (line, number) =>
    let fields := fieldsOf tab line
    { line, number, key := fields.getD place [], fields }

/-- How lines are joined: the order of the keys, the files whose lines are shown without a partner,
whether pairs are shown, and what is shown of one line or two. -/
structure Joining where
  order : Bytes → Bytes → Ordering
  alone : List Nat
  pairs : Bool
  text : Option Row → Option Row → Bytes
  watch : Watch Row

namespace Joining

def showAlone (j : Joining) (file : Nat) (row : Row) (s : Abreast Row) : Abreast Row :=
  if j.alone.contains file then
    s.say (if file = 1 then j.text (some row) none else j.text none (some row))
  else s

/-- Reads on in a file while the keys are the same; the fuel bounds the lines. -/
def group (j : Joining) (file : Nat) (key : Bytes) :
    Nat → List Row → Abreast Row → Except (Abreast Row) (List Row × Abreast Row)
  | 0, rows, s => .ok (rows.reverse, s)
  | fuel + 1, rows, s =>
    match (s.side file).lines with
    | row :: _ =>
      if j.order row.key key == .eq then do
        let s ← j.watch.advance false file s
        group j file key fuel (row :: rows) s
      else .ok (rows.reverse, s)
    | [] => .ok (rows.reverse, s)

/-- Joins the lines up to the end of a file; the fuel bounds them. -/
def run (j : Joining) : Nat → Abreast Row → Except (Abreast Row) (Abreast Row)
  | 0, s => .ok s
  | fuel + 1, s =>
    match s.first.lines, s.second.lines with
    | a :: _, b :: _ =>
      match j.order a.key b.key with
      | .lt => do
        let s ← j.watch.advance false 1 (j.showAlone 1 a s)
        run j fuel { s with unpaired := true }
      | .gt => do
        let s ← j.watch.advance false 2 (j.showAlone 2 b s)
        run j fuel { s with unpaired := true }
      | .eq => do
        let (as, s) ← j.group 1 b.key (s.first.lines.length + 1) [] s
        let (bs, s) ← j.group 2 a.key (s.second.lines.length + 1) [] s
        run j fuel (if j.pairs then
          as.foldl (fun s a => bs.foldl (fun s b => s.say (j.text (some a) (some b))) s) s else s)
    | _, _ => .ok s

/-- Reads the lines that are left of a file, up to one out of order if none of them is shown. -/
def finish (j : Joining) (file : Nat) : Nat → Abreast Row → Except (Abreast Row) (Abreast Row)
  | 0, s => .ok s
  | fuel + 1, s =>
    match (s.side file).lines with
    | row :: _ => do
      let s ← j.watch.advance false file (j.showAlone file row s)
      if s.blamed.contains file && !j.alone.contains file then return s
      finish j file fuel s
    | [] => .ok s

/-- Goes on with what is left of one file, if that is looked at. -/
def tail (j : Joining) (file : Nat) (checks : Bool) (s : Abreast Row) :
    Except (Abreast Row) (Abreast Row) :=
  let lines := (s.side file).lines
  if (checks || j.alone.contains file) && !lines.isEmpty then
    j.finish file (lines.length + 1)
      { s with unpaired := s.unpaired || !(s.side (3 - file)).lines.isEmpty }
  else .ok s

end Joining

def joinForms : List OptionForm :=
  [.valued 'a' "a", .valued 'v' "v", .valued 'e' "e", .flag 'i' "ignore-case", .valued 'j' "j",
    .valued 'o' "o", .valued 't' "t", .valued '1' "1", .valued '2' "2", .longFlag "check-order",
    .longFlag "nocheck-order", .longFlag "header", .flag 'z' "zero-terminated"]

/-- Joins the lines of two sorted files that have the same key. -/
def join (s : Scene) : Deed :=
  reading s "join" 1 joinForms fun found operands =>
    let place (file : String) : Except String Nat :=
      match (found.reverse.find? fun (name, _) => name = file || name = "j").map (·.2) with
      | none => .ok 0
      | some text =>
        match decimal? text.toList with
        | some (n + 1) => .ok n
        | _ => .error ("invalid field number: " ++ Quoting.value text)
    let columns : Except String (List JoinColumn) :=
      ((found.all "o").flatMap fun text =>
        (text.split fun c => c = ',' || c = ' ' || c = '\t').toStringList.filter (· ≠ "")).mapM
        JoinColumn.ofString
    let tab : Except String (Option UInt8) :=
      match (found.value? "t").map Bytes.ofString with
      | none => .ok none
      | some [] => .ok (some newline)
      | some [b] => .ok (some b)
      | some [0x5C, 0x30] => .ok (some 0)
      | some text =>
        .error ("multi-character tab " ++ Quoting.value (String.ofList (Text.Utf8.lossy text)))
    match place "1", place "2", (if found.value? "o" = some "auto" then .ok [] else columns), tab with
    | .error text, _, _, _ | _, .error text, _, _ | _, _, .error text, _ | _, _, _, .error text =>
      complaint s ("join: " ++ text) 1
    | .ok at1, .ok at2, .ok columns, .ok tab =>
      if operands = ["-", "-"] then complaint s "join: both files cannot be standard input" 1
      else
      findingTwo s "join" plainly operands fun first second unread =>
        let mark := lineEnd found "zero-terminated"
        let as := rowsOf mark tab at1 first
        let bs := rowsOf mark tab at2 second
        let gap := [tab.getD 0x20]
        let blank := Bytes.ofString ((found.value? "e").getD "")
        let filled (field : Bytes) : Bytes := if field = [] then blank else field
        let auto := found.value? "o" = some "auto"
        let size (rows : List Row) : Nat := (rows.head?.map fun r => r.fields.length).getD 0
        let padTo (n : Nat) (fields : List Bytes) : List Bytes :=
          (List.range n).map fun i => filled (fields.getD i [])
        let text (a b : Option Row) : Bytes :=
          let of (r : Option Row) : List Bytes := (r.map (·.fields)).getD []
          let key := ((a.or b).map (·.key)).getD []
          let fields :=
            if columns ≠ [] then
              columns.map fun
                | .key => filled key
                | .field 1 n => filled ((of a).getD n [])
                | .field _ n => filled ((of b).getD n [])
            else if auto then
              filled key :: (padTo (size as) (of a)).eraseIdx at1 ++
                (padTo (size bs) (of b)).eraseIdx at2
            else key :: (of a).eraseIdx at1 ++ (of b).eraseIdx at2
          gap.intercalate fields ++ [mark]
        let order (a b : Bytes) : Ordering :=
          if found.has "ignore-case" then compare (a.map toUpper) (b.map toUpper) else compare a b
        let watch : Watch Row :=
          { check := .ofOptions found
            descends := fun a b => order a.key b.key == .gt
            blame := fun n row =>
              Bytes.ofString ("join: " ++ Quoting.name (operands.getD (n - 1) "") ++ ":" ++
                row.number.repr ++ ": is not sorted: ") ++ row.line ++ [newline] }
        let j : Joining :=
          { order, text, watch
            alone := (found.all "a" ++ found.all "v").map fun text => if text = "1" then 1 else 2
            pairs := !found.has "v" }
        let start : Abreast Row :=
          if found.has "header" && !(as.isEmpty && bs.isEmpty) then
            let empty := some ⟨[], 0, [], []⟩
            (Abreast.ofLines (as.drop 1) (bs.drop 1)).say (text (as.head?.or empty) (bs.head?.or empty))
          else .ofLines as bs
        Abreast.deed s "join" unread (do
          let a ← j.run (as.length + bs.length + 1) start
          let checks := watch.check ≠ .never && !(a.blamed.contains 1 && a.blamed.contains 2)
          let a ← j.tail 1 checks a
          j.tail 2 checks a)

end Scratchpad.Shell.Tools
