import Scratchpad.Shell.Differing.Text
import Scratchpad.Time.Form

/-!
# Forms of changes

The forms in which the changes between two texts are shown: the plain one, commands for line editors,
and the two that show lines around the changes.
-/

namespace Scratchpad.Shell.Differing

open Tools (isSpace isLetter padLeft)

/-- The colours of parts, by the numbers that stand for them. -/
structure Palette where
  header : String
  added : String
  deleted : String
  number : String
  reset : String

/-- How changes are laid out. -/
structure Layout where
  context : Nat
  tabSize : Nat
  /-- Tabs are shown as blanks. -/
  expandsTabs : Bool
  /-- A tab stands behind each mark. -/
  tabBehind : Bool
  /-- No blank stands in front of an empty line. -/
  bareEmpty : Bool
  /-- What lines are shown as headings of what follows them. -/
  heading : Option Pattern
  palette : Option Palette
  zone : Time.Zone

namespace Layout

/-- What turns a colour on. -/
def ink (v : Layout) (colour : Palette → String) : Bytes :=
  match v.palette with
  | some p => Bytes.ofString ("\x1b[" ++ colour p ++ "m")
  | none => []

/-- Something in a colour. -/
def painted (v : Layout) (colour : Palette → String) (bytes : Bytes) : Bytes :=
  v.ink colour ++ bytes ++ v.ink Palette.reset

/-- The inside of a line, where tabs may be shown as blanks; what stands in front of the line is repeated
where it begins anew. -/
def expanded (tab : Nat) (before : Bytes) : Nat → Bytes → Bytes
  | _, [] => []
  | column, b :: rest =>
    if b = 9 then
      let n := tab - column % tab
      List.replicate n 0x20 ++ expanded tab before (column + n) rest
    else if b = 0x0D then
      b :: ((if rest.isEmpty then [] else before) ++ expanded tab before 0 rest)
    else if b = 8 then
      if column = 0 then expanded tab before 0 rest else b :: expanded tab before (column - 1) rest
    else b :: expanded tab before (if Quoting.isPrintable b then column + 1 else column) rest

def inside (v : Layout) (before line : Bytes) : Bytes :=
  if v.expandsTabs then expanded v.tabSize before 0 line else line

/-- What stands in front of a line with a mark. -/
def lead (v : Layout) (mark : String) (line : Bytes) : Bytes :=
  if v.bareEmpty && line.isEmpty then Bytes.ofString (if mark = " " then "" else mark)
  else Bytes.ofString (mark ++ if v.tabBehind then "\t" else " ")

/-- What is said behind a line that lacks its end. -/
def cutNote : Bytes :=
  Bytes.ofString "\n\\ No newline at end of file\n"

/-- Lines from one up to another, each in a colour and with what stands in front of it. -/
def rows (v : Layout) (colour : Palette → String) (s : Side) (first behind : Nat)
    (front : Nat → Bytes → Bytes) : Bytes :=
  (s.span first behind).flatMap fun i =>
    let line := s.line i
    let before := front i line
    v.painted colour (before ++ v.inside before line) ++ if s.isCutAt i then cutNote else [newline]

/-- Lines without a mark, as they stand. -/
def bare (v : Layout) (s : Side) (first behind : Nat) : Bytes :=
  (s.span first behind).flatMap fun i =>
    v.inside [] (s.line i) ++ if s.isCutAt i then [] else [newline]

end Layout

/-- A range of lines, by the first and the last of them; behind which line it is when it has none. -/
def lineRange (mark : String) (before n : Nat) : String :=
  if n = 0 then before.repr
  else if n = 1 then (before + 1).repr
  else (before + 1).repr ++ mark ++ (before + n).repr

namespace Change

def letter (c : Change) : String :=
  if c.dropped = 0 then "a" else if c.added = 0 then "d" else "c"

def behindFirst (c : Change) : Nat :=
  c.first + c.dropped

def behindSecond (c : Change) : Nat :=
  c.second + c.added

end Change

/-! ## Plain forms -/

/-- The plain form: what to do to which lines, and the lines. -/
def plainForm (v : Layout) (a b : Side) (changes : List Change) : Bytes :=
  changes.flatMap fun c =>
    v.painted Palette.number (Bytes.ofString
        (lineRange "," c.first c.dropped ++ c.letter ++ lineRange "," c.second c.added)) ++ [newline] ++
      v.rows Palette.deleted a c.first c.behindFirst (fun _ line => v.lead "<" line) ++
      (if c.letter = "c" then Bytes.ofString "---\n" else []) ++
      v.rows Palette.added b c.second c.behindSecond fun _ line => v.lead ">" line

/-- The lines that a line editor is to put in. A line that is a single dot would end them: it is put in
with a second dot, which is then taken away. -/
def typed (v : Layout) (b : Side) (c : Change) : Bytes :=
  let (out, open') := (b.span c.second c.behindSecond).foldl (fun (acc : Bytes × Bool) i =>
    let (out, open') := acc
    let out := if open' then out else out ++ Bytes.ofString "a\n"
    let line := b.line i
    if line = [0x2E] then (out ++ Bytes.ofString "..\n.\ns/.//\n", false)
    else (out ++ v.inside [] line ++ [newline], true)) ([], true)
  if open' then out ++ Bytes.ofString ".\n" else out

/-- The form of commands for a line editor, the last change first. -/
def commandForm (v : Layout) (b : Side) (changes : List Change) : Bytes :=
  changes.reverse.flatMap fun c =>
    Bytes.ofString (lineRange "," c.first c.dropped ++ c.letter ++ "\n") ++
      if c.added = 0 then [] else typed v b c

/-- The form that looks like commands, the first change first. -/
def forwardForm (v : Layout) (b : Side) (changes : List Change) : Bytes :=
  changes.flatMap fun c =>
    Bytes.ofString (c.letter ++ lineRange " " c.first c.dropped ++ "\n") ++
      if c.added = 0 then []
      else (b.span c.second c.behindSecond).flatMap (fun i => v.inside [] (b.line i) ++ [newline]) ++
        Bytes.ofString ".\n"

/-- The form of commands that count lines. -/
def countedForm (v : Layout) (b : Side) (changes : List Change) : Bytes :=
  changes.flatMap fun c =>
    (if c.dropped = 0 then []
      else Bytes.ofString ("d" ++ (c.first + 1).repr ++ " " ++ c.dropped.repr ++ "\n")) ++
    if c.added = 0 then []
    else Bytes.ofString ("a" ++ c.behindFirst.repr ++ " " ++ c.added.repr ++ "\n") ++
      v.bare b c.second c.behindSecond

/-! ## Forms with the lines around -/

/-- Some changes with the lines around them, in each text from one line up to another. -/
structure Hunk where
  changes : List Change
  first : Nat
  behindFirst : Nat
  second : Nat
  behindSecond : Nat

/-- Changes in groups: changes are together when their surroundings touch, and a change that is passed
over when it stands in the surroundings of another one. Groups of nothing but such changes are left out. -/
def hunksOf (context : Nat) (isOver : Change → Bool) (a b : Side) (changes : List Change) : List Hunk :=
  let groups := changes.splitBy fun c d =>
    d.first - c.behindFirst < if isOver c || isOver d then context else 2 * context + 1
  groups.filterMap fun group =>
    match group.head?, group.getLast? with
    | some c, some d =>
      if group.all isOver then none
      else some ⟨group, c.first - context, min a.size (d.behindFirst + context), c.second - context,
        min b.size (d.behindSecond + context)⟩
    | _, _ => none

/-- A name as it stands in a heading: in double quotes, with escapes, if a reader might stumble on it. -/
def headingName (name : String) : String :=
  let letters : List (UInt8 × String) := [(7, "a"), (8, "b"), (9, "t"), (10, "n"), (11, "v"), (12, "f"),
    (13, "r"), (0x22, "\""), (0x5C, "\\")]
  let shown (b : UInt8) : Bytes :=
    match letters.lookup b with
    | some letter => Bytes.ofString ("\\" ++ letter)
    | none => if b < 0x20 then Bytes.ofString ("\\" ++ Tools.padOctal 3 b.toNat) else [b]
  let bytes := Bytes.ofString name
  let inner := bytes.flatMap shown
  if inner = bytes && !bytes.contains 0x20 then name
  else "\"" ++ String.ofList (Text.Utf8.lossy inner) ++ "\""

/-- The lines that name both texts and say when they were changed. -/
def namesOf (v : Layout) (form : String) (a b : Side) (marks : String × String) : Bytes :=
  let row (mark : String) (s : Side) : Bytes :=
    let name := match s.label with
      | some label => label
      | none => headingName s.path ++ "\t" ++
        Time.Form.render ⟨s.changed / 1000000000, s.changed % 1000000000, v.zone⟩ true form
    v.painted Palette.header (Bytes.ofString (mark ++ " " ++ name)) ++ [newline]
  row marks.1 a ++ row marks.2 b

/-- The last heading before a line, as it is shown behind the line that begins a hunk. -/
def headingBefore (v : Layout) (a : Side) (first : Nat) : Bytes :=
  match v.heading with
  | none => []
  | some p =>
    match (a.span 0 first).reverse.find? fun i => p.isIn (a.line i) with
    | none => []
    | some i =>
      let text := ((a.line i).dropWhile isSpace).take 40
      0x20 :: (text.reverse.dropWhile isSpace).reverse

/-- The form in which both texts are one, with a sign in front of each line. -/
def unifiedForm (v : Layout) (isOver : Change → Bool) (a b : Side) (changes : List Change) : Bytes :=
  let range (first behind : Nat) : String :=
    if behind = first + 1 then (first + 1).repr
    else (if behind ≤ first then behind.repr else (first + 1).repr) ++ "," ++ (behind - first).repr
  let lead (mark : String) (line : Bytes) : Bytes :=
    Bytes.ofString (mark ++ if v.tabBehind && !(v.bareEmpty && line.isEmpty) then "\t" else "")
  let around (first behind : Nat) : Bytes :=
    (a.span first behind).flatMap fun i =>
      let line := a.line i
      (if v.bareEmpty && line.isEmpty then [] else [if v.tabBehind then 9 else 0x20]) ++ v.inside [] line ++
        if a.isCutAt i then Layout.cutNote else [newline]
  namesOf v "%Y-%m-%d %H:%M:%S.%N %z" a b ("---", "+++") ++
    (hunksOf v.context isOver a b changes).flatMap fun h =>
      let (body, i, j) := h.changes.foldl (fun (acc : Bytes × Nat × Nat) c =>
        let (out, i, _) := acc
        (out ++ around i c.first ++
          v.rows Palette.deleted a c.first c.behindFirst (fun _ line => lead "-" line) ++
          v.rows Palette.added b c.second c.behindSecond (fun _ line => lead "+" line),
          c.behindFirst, c.behindSecond)) ([], h.first, h.second)
      v.painted Palette.number (Bytes.ofString ("@@ -" ++ range h.first h.behindFirst ++ " +" ++
          range h.second h.behindSecond ++ " @@")) ++ headingBefore v a h.first ++ [newline] ++ body ++
        around i (max h.behindFirst (i + (h.behindSecond - j)))

/-- The form in which each text is shown on its own, with its changes marked. -/
def contextForm (v : Layout) (isOver : Change → Bool) (a b : Side) (changes : List Change) : Bytes :=
  let range (first behind : Nat) : String :=
    if behind ≤ first + 1 then behind.repr else (first + 1).repr ++ "," ++ behind.repr
  let part (colour : Palette → String) (s : Side) (first behind : Nat) (mark : String)
      (spans : List (Nat × Nat × Bool)) : Bytes :=
    if spans.all fun (from', behind', _) => from' = behind' then []
    else
      v.rows colour s first behind fun i line =>
        let mark := match spans.find? fun (_, behind', _) => i < behind' with
          | some (from', _, both) => if from' ≤ i then (if both then "!" else mark) else " "
          | none => " "
        v.lead mark line
  namesOf v "%a %b %e %T %Y" a b ("***", "---") ++
    (hunksOf v.context isOver a b changes).flatMap fun h =>
      Bytes.ofString "***************" ++ headingBefore v a h.first ++ [newline] ++
        v.painted Palette.number (Bytes.ofString ("*** " ++ range h.first h.behindFirst ++ " ****")) ++
        [newline] ++
        part Palette.deleted a h.first h.behindFirst "-"
          (h.changes.map fun c => (c.first, c.behindFirst, 0 < c.added)) ++
        v.painted Palette.number (Bytes.ofString ("--- " ++ range h.second h.behindSecond ++ " ----")) ++
        [newline] ++
        part Palette.added b h.second h.behindSecond "+"
          (h.changes.map fun c => (c.second, c.behindSecond, 0 < c.dropped))

end Scratchpad.Shell.Differing
