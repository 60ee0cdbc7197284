import Scratchpad.Shell.Differing.Request
import Scratchpad.Shell.Tools.Filing

/-!
# Differences between files and directories

Two files are compared as texts, or as bytes if one of them does not look like a text. Two directories are
compared name by name: the files that both have are compared, and of a file that only one has it is said
so. The answer is nought when nothing differs, one when something does, and two when something went wrong.
-/

namespace Scratchpad.Shell.Differing

open Files (Node Path Place)
open Deed (complaint ofWrites told)

/-- What a path stands for. -/
inductive Thing
  /-- The input. -/
  | input
  /-- A file that is missing and counts as an empty one. -/
  | absent
  | wrong (reason : String)
  | node (place : Place) (n : Node)

namespace Thing

def isAbsent : Thing → Bool
  | .absent => true
  | _ => false

def node? : Thing → Option Node
  | .node _ n => some n
  | _ => none

def isDir (t : Thing) : Bool :=
  t.node?.any Node.isDir

def isLink (t : Thing) : Bool :=
  t.node?.any Node.isLink

/-- Is it a file whose contents can be compared wherever it is found? -/
def isPlain (t : Thing) : Bool :=
  match t with
  | .node _ (.file ..) | .node _ (.link ..) => true
  | _ => false

/-- Are two things one and the same? -/
def isSameAs (t u : Thing) : Bool :=
  match t, u with
  | .input, .input => true
  | .node p m, .node q n => p = q || (m.traits.number.isSome && m.traits.number = n.traits.number)
  | _, _ => false

def kind (t : Thing) : String :=
  match t with
  | .node _ n => Tools.kindText n
  | _ => "fifo"

end Thing

/-- What was written and how it ended: the greatest of the codes counts. -/
structure Outcome where
  writes : List (Outlet × Bytes)
  code : Nat

namespace Outcome

def still : Outcome := ⟨[], 0⟩

def tells (text : String) (code : Nat) : Outcome :=
  ⟨[(.out, Bytes.ofString (text ++ "\n"))], code⟩

def fails (text : String) : Outcome :=
  ⟨[told ("diff: " ++ text)], 2⟩

def append (a b : Outcome) : Outcome :=
  ⟨a.writes ++ b.writes, max a.code b.code⟩

end Outcome

/-! ## Texts -/

/-- Lines without the returns in front of their ends. -/
def withoutReturns : Bytes → Bytes
  | [] => []
  | [b] => if b = 0x0D then [] else [b]
  | b :: c :: rest =>
    if b = 0x0D && c = newline then withoutReturns (c :: rest) else b :: withoutReturns (c :: rest)

/-- How many bytes are looked at to find out whether a file is a text. -/
def lookedAt : Nat := 4096

/-- The side that some bytes make. -/
def sideOf (q : Query) (path : String) (label : Option String) (changed : Int) (bytes : Bytes) : Side :=
  let isCut := bytes.getLast?.any (· ≠ newline)
  let bytes := if q.stripsReturns then withoutReturns bytes else bytes
  let lines := bytes.splitOn newline
  let lines := if isCut then lines else lines.dropLast
  ⟨path, label, changed, lines.toArray, isCut⟩

/-- Compares two texts; within directories a heading names them. -/
def compareTexts (q : Query) (within : Bool) (a b : Side) : Outcome :=
  let changes := q.likeness.changes a b
  let isOver := q.likeness.passesOver a b
  let counted := changes.filter fun c => !isOver c
  let differs := !counted.isEmpty
  let shown : Bytes :=
    if q.isBrief then
      if differs then Bytes.ofString ("Files " ++ a.name ++ " and " ++ b.name ++ " differ\n") else []
    else if !differs && q.isSilentWhenSame then []
    else
      let v := q.layout
      let heading := if within then Bytes.ofString ("diff" ++ q.switches ++ " " ++ headingName a.name ++ " " ++
        headingName b.name ++ "\n") else []
      heading ++ match q.form with
        | .plain => plainForm v a b counted
        | .commands => commandForm v b counted
        | .forward => forwardForm v b counted
        | .counted => countedForm v b counted
        | .unified => unifiedForm v isOver a b changes
        | .context => contextForm v isOver a b changes
        | .side => sideForm v q.columns a b counted
        | .groups => groupForm v q.groups a b counted
  let cuts := if q.form.endsLines && !q.isBrief then
      ([a, b].filter (·.isCut)).map fun s => told ("diff: " ++ s.name ++ ": No newline at end of file\n")
    else []
  ⟨(.out, shown) :: cuts, if cuts.isEmpty then (if differs then 1 else 0) else 2⟩

/-- Compares the contents of two files. -/
def compareContents (q : Query) (within : Bool) (names : String × String) (times : Int × Int)
    (a b : Bytes) : Outcome :=
  let shownA := (q.labels[0]?).getD names.1
  let shownB := (q.labels[1]?).getD names.2
  let isText (bytes : Bytes) : Bool := !(bytes.take lookedAt).contains 0
  if !q.readsAll && (!isText a || !isText b) then
    if a = b then .still
    else if q.isBrief then .tells ("Files " ++ shownA ++ " and " ++ shownB ++ " differ") 1
    else .tells ("Binary files " ++ shownA ++ " and " ++ shownB ++ " differ") 2
  else
    compareTexts q within (sideOf q names.1 q.labels[0]? times.1 a) (sideOf q names.2 q.labels[1]? times.2 b)

/-! ## Files -/

/-- The path of an entry in a directory. -/
def below (dir name : String) : String :=
  if dir.endsWith "/" then dir ++ name else dir ++ "/" ++ name

/-- What stands at a path. -/
def look (s : Scene) (q : Query) (path : String) : Thing :=
  if path = "-" then (if s.input.isShut then .wrong "Bad file descriptor" else .input)
  else
    let p := Path.ofString path
    match s.files.resolve q.followsLinks p with
    | .ok (.found place n) => .node place n
    | .ok (.absent ..) => if path = "/dev/stdin" then .input else .wrong Files.Error.noEntry.reason
    | .error e => .wrong e.reason

/-- The bytes of a thing. -/
def contents (s : Scene) (path : String) : Thing → Except String Bytes
  | .input => .ok s.input.first
  | .absent => .ok []
  | .wrong reason => .error reason
  | .node .. =>
    match Flow.named s.files s.input path with
    | .ok f => .ok f.first
    | .error e => .error e.reason

def timeOf (s : Scene) : Thing → Int
  | .node _ n => n.traits.changed
  | .input => s.files.now
  | _ => 0

/-- The names in a directory that are not left out, in order; the first level may begin at some name. -/
def namesIn (q : Query) (isFirst : Bool) (t : Thing) : List String :=
  let folded (name : String) : String := if q.anyNameCase then name.map Char.toLower else name
  let le (a b : String) : Bool :=
    let x := Bytes.ofString (folded a)
    let y := Bytes.ofString (folded b)
    if x = y then !decide (Bytes.ofString b < Bytes.ofString a) else decide (x < y)
  let names := (t.node?.map Node.entries).getD [] |>.map fun (name, _) => String.ofList (Text.Utf8.lossy name)
  let names := names.filter fun name => !q.left.any fun p => Pattern.fits (folded p) (folded name)
  let names := names.mergeSort le
  match q.beginsAt with
  | some start => if isFirst then names.dropWhile fun name => !le start name else names
  | none => names

/-- Names of two directories side by side: those that both have, and those that only one has. -/
def pairNames (same : String → String → Bool) (before : String → String → Bool) :
    Nat → List String → List String → List (Option String × Option String)
  | 0, _, _ => []
  | _, as, [] => as.map fun a => (some a, none)
  | _, [], bs => bs.map fun b => (none, some b)
  | fuel + 1, a :: as, b :: bs =>
    if same a b then (some a, some b) :: pairNames same before fuel as bs
    else if before a b then (some a, none) :: pairNames same before fuel as (b :: bs)
    else (none, some b) :: pairNames same before fuel (a :: as) bs

/-- Compares what stands at two paths, the last parts of which are names in two directories unless there
are none. A missing name is that of a file that only the other directory has. The fuel bounds how deep
directories are. -/
def compareAt (s : Scene) (q : Query) :
    Nat → Option (String × String) → List (Thing × Thing) → Option String → Option String → Outcome
  | 0, _, _, first, _ => .fails (first.getD "" ++ ": recursive directory loop")
  | fuel + 1, parents, above, first, second =>
    let nameA := first.getD (second.getD "")
    let nameB := second.getD nameA
    let pathOf (dir : Option String) (name : String) : String := (dir.map fun d => below d name).getD name
    let pathA := pathOf (parents.map (·.1)) nameA
    let pathB := pathOf (parents.map (·.2)) nameB
    let within := parents.isSome
    let mayMiss := q.anyMissing || (q.firstMissing && second.isSome)
    if (first.isNone || second.isNone) && !mayMiss then
      let dir := parents.map fun (p, r) => if first.isNone then r else p
      .tells ("Only in " ++ dir.getD "" ++ ": " ++ nameA) 1
    else
      let a := if first.isNone then .absent else look s q pathA
      let b := if second.isNone then .absent else look s q pathB
      let isThere (t : Thing) : Bool := match t with
        | .input | .node .. => true
        | _ => false
      let missed (allowed : Bool) (t u : Thing) : Thing := match t with
        | .wrong reason =>
          if allowed && !within && isThere u &&
            (reason = Files.Error.noEntry.reason || reason = "Bad file descriptor") then .absent else t
        | t => t
      let a' := missed (q.anyMissing || q.firstMissing) a b
      let b' := missed q.anyMissing b a
      let faults := [(pathA, a'), (pathB, b')].filterMap fun (path, t) =>
        match t with
        | .wrong reason => some (told ("diff: " ++ path ++ ": " ++ reason))
        | _ => none
      if !faults.isEmpty then ⟨faults, 2⟩
      else
        -- A file that is missing is of the kind of its partner.
        let dirA := a'.isDir || (a'.isAbsent && b'.isDir)
        let dirB := b'.isDir || (b'.isAbsent && a'.isDir)
        let pair : Except Outcome (String × Thing × String × Thing) :=
          if within || dirA = dirB then .ok (pathA, a', pathB, b')
          else
            let (dir, file) := if dirA then (pathA, pathB) else (pathB, pathA)
            if file = "-" then .error (.fails "cannot compare '-' to a directory")
            else
              let path := below dir ((file.splitOn "/").getLast?.getD file)
              match look s q path with
              | .wrong reason => .error (.fails (path ++ ": " ++ reason))
              | t => .ok (if dirA then (path, t, pathB, b') else (pathA, a', path, t))
        match pair with
        | .error o => o
        | .ok (pathA, a, pathB, b) =>
          let dirA := a.isDir || (a.isAbsent && b.isDir)
          let dirB := b.isDir || (b.isAbsent && a.isDir)
          let labelA := (q.labels[0]?).getD pathA
          let labelB := (q.labels[1]?).getD pathB
          let kinds := "File " ++ labelA ++ " is a " ++ a.kind ++ " while file " ++ labelB ++ " is a " ++ b.kind
          let isSame := a.isSameAs b
          let outcome : Outcome :=
            if isSame && q.isSilentWhenSame then .still
            else if dirA && dirB && (!(a.isAbsent || b.isAbsent) || q.recursive) then
              if q.form = .groups then .fails "-D option not supported with directories"
              else if within && !q.recursive then
                .tells ("Common subdirectories: " ++ pathA ++ " and " ++ pathB) 0
              else if !above.isEmpty && (a.isAbsent || above.any fun (x, _) => x.isSameAs a) &&
                  (b.isAbsent || above.any fun (_, y) => y.isSameAs b) then
                .fails ((if a.isAbsent then pathB else pathA) ++ ": recursive directory loop")
              else
                let folded (x : String) : String := if q.anyNameCase then x.map Char.toLower else x
                let as := namesIn q (!within) a
                let bs := namesIn q (!within) b
                let pairs := pairNames (fun x y => folded x = folded y)
                  (fun x y => decide (Bytes.ofString (folded x) < Bytes.ofString (folded y)))
                  (as.length + bs.length + 1) as bs
                pairs.foldl (fun (o : Outcome) (x, y) =>
                  o.append (compareAt s q fuel (some (pathA, pathB)) ((a, b) :: above) x y)) .still
            else if a.isAbsent || b.isAbsent then
              if dirA || dirB then
                let dir := parents.map fun (p, r) => if a.isAbsent then r else p
                .tells ("Only in " ++ dir.getD "" ++ ": " ++ nameA) 1
              else
                match contents s pathA a, contents s pathB b with
                | .ok x, .ok y => compareContents q within (pathA, pathB) (timeOf s a, timeOf s b) x y
                | .error reason, _ => .fails (pathA ++ ": " ++ reason)
                | _, .error reason => .fails (pathB ++ ": " ++ reason)
            else if dirA || dirB || (within && !(a.isPlain && b.isPlain)) then .tells kinds 1
            else if a.isLink || b.isLink then
              match a, b with
              | .node _ (.link _ x), .node _ (.link _ y) =>
                if x = y then .still
                else .tells ("Symbolic links " ++ pathA ++ " and " ++ pathB ++ " differ") 1
              | _, _ => .tells kinds 1
            else
              match contents s pathA a, contents s pathB b with
              | .ok x, .ok y => compareContents q within (pathA, pathB) (timeOf s a, timeOf s b) x y
              | .error reason, _ => .fails (pathA ++ ": " ++ reason)
              | _, .error reason => .fails (pathB ++ ": " ++ reason)
          if outcome.code = 0 && q.reportsSame && !dirA then
            outcome.append (.tells ("Files " ++ labelA ++ " and " ++ labelB ++ " are identical") 0)
          else outcome

/-- Says how files differ. -/
def diff (s : Scene) : Deed :=
  match request s with
  | .error (.usage text) => complaint s (Tools.comparingHint "diff" text) 2
  | .error (.plain text) => complaint s ("diff: " ++ text) 2
  | .ok (q, pairs) =>
    let reads := pairs.any fun (a, b) => a ≠ b && [a, b].any fun name => name = "-" || name = "/dev/stdin"
    let isEndless := (reads && s.input.isEndless) ||
      pairs.any fun (a, b) => a ≠ b && (a = "/dev/zero" || b = "/dev/zero")
    if isEndless then .waiting
    else
      let o := pairs.foldl (fun (o : Outcome) (a, b) =>
        o.append (compareAt s q 64 none [] (some a) (some b))) .still
      { ofWrites s o.writes o.code with unread := if reads then .empty else s.input }

end Scratchpad.Shell.Differing
