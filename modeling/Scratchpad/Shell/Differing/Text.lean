import Scratchpad.Shell.Differing.Alignment
import Scratchpad.Shell.Pattern
import Scratchpad.Shell.Tools.Basic
import Std.Data.HashMap

/-!
# Texts that are compared

Two texts are compared line by line. What counts in a line can be less than what it holds: blanks and the
case of letters may be without weight. The last line of a text may lack its end, and then it is another
line than one that has it. Changes of nothing but lines without weight can be passed over.
-/

namespace Scratchpad.Shell.Differing

open Tools (isSpace isUpper)

/-- One of two texts: its path, the name that stands for it if it has one, the time when it was changed,
its lines, and whether the last of them lacks its end. -/
structure Side where
  path : String
  label : Option String
  changed : Int
  lines : Array Bytes
  isCut : Bool

namespace Side

/-- The name under which a text is spoken of. -/
def name (s : Side) : String :=
  s.label.getD s.path

def size (s : Side) : Nat :=
  s.lines.size

def line (s : Side) (i : Nat) : Bytes :=
  s.lines.getD i []

/-- Does a line lack its end? -/
def isCutAt (s : Side) (i : Nat) : Bool :=
  s.isCut && i + 1 = s.size

/-- Lines from one up to another, with their numbers. -/
def span (s : Side) (first behind : Nat) : List Nat :=
  List.range' first (min behind s.size - first)

end Side

/-- What counts when lines are compared. -/
structure Likeness where
  anyCase : Bool
  /-- Tabs are as good as the blanks that they stand for. -/
  anyTabs : Bool
  anyTrailing : Bool
  anyAmount : Bool
  noBlanks : Bool
  tabSize : Nat
  /-- Does it count whether the last line has its end? -/
  countsEnd : Bool
  thorough : Bool
  /-- How many equal lines in front of the first change and behind the last one are aligned with the
  others. -/
  horizon : Nat
  /-- Empty lines are without weight. -/
  skipsEmpty : Bool
  /-- Lines in which this is found are without weight. -/
  skipped : Option Pattern

namespace Likeness

/-- Do blanks at the end of a line count? -/
def ignoresTrailing (l : Likeness) : Bool :=
  l.anyTrailing || l.anyAmount || l.noBlanks

/-- A line with blanks in the places of its tabs. -/
def withoutTabs (tab : Nat) : Nat → Bytes → Bytes
  | _, [] => []
  | column, b :: rest =>
    if b = 9 then
      let n := tab - column % tab
      List.replicate n 0x20 ++ withoutTabs tab (column + n) rest
    else
      b :: withoutTabs tab (if b = 8 then column - 1 else if b = 0x0D then 0 else column + 1) rest

/-- What counts in a line. -/
def essence (l : Likeness) (line : Bytes) : Bytes :=
  let trimmed := if l.ignoresTrailing then (line.reverse.dropWhile isSpace).reverse else line
  let spaced := if l.noBlanks then trimmed.filter fun b => !isSpace b
    else if l.anyAmount then
      (trimmed.splitBy fun a b => isSpace a = isSpace b).flatMap fun part =>
        if part.any isSpace then [0x20] else part
    else if l.anyTabs then withoutTabs l.tabSize 0 trimmed
    else trimmed
  if l.anyCase then spaced.map fun b => if isUpper b then b + 0x20 else b else spaced

/-- Does a line have no weight? -/
def isSkipped (l : Likeness) (line : Bytes) : Bool :=
  (l.skipsEmpty && (line.isEmpty || (l.ignoresTrailing && line.all isSpace))) ||
    l.skipped.any fun p => p.isIn line

/-- Does a change take out and put in nothing but lines without weight? -/
def passesOver (l : Likeness) (a b : Side) (c : Change) : Bool :=
  (l.skipsEmpty || l.skipped.isSome) &&
    ((a.span c.first (c.first + c.dropped)).all fun i => l.isSkipped (a.line i)) &&
    ((b.span c.second (c.second + c.added)).all fun i => l.isSkipped (b.line i))

/-- Are two lines the same, byte by byte? -/
def isSame (l : Likeness) (a b : Side) (i j : Nat) : Bool :=
  a.line i = b.line j && (!l.countsEnd || a.isCutAt i = b.isCutAt j)

/-- How many lines are the same at the beginning. -/
def sharedFront (l : Likeness) (a b : Side) : Nat → Nat → Nat
  | 0, i => i
  | fuel + 1, i =>
    if i < a.size && i < b.size && l.isSame a b i i then sharedFront l a b fuel (i + 1) else i

/-- How many of the last lines are the same, none of them among so many at the beginning. -/
def sharedBack (l : Likeness) (a b : Side) (front : Nat) : Nat → Nat → Nat
  | 0, n => n
  | fuel + 1, n =>
    if front + n < a.size && front + n < b.size &&
        l.isSame a b (a.size - n - 1) (b.size - n - 1) then sharedBack l a b front fuel (n + 1)
    else n

/-- Numbers for lines, the same for those that are alike, and the lines that have numbers so far. -/
def number (l : Likeness) (s : Side) (first behind : Nat)
    (known : Std.HashMap (Bytes × Bool) Nat) : Row × Std.HashMap (Bytes × Bool) Nat :=
  (s.span first behind).foldl (fun (acc : Row × Std.HashMap (Bytes × Bool) Nat) i =>
    let key := (l.essence (s.line i), l.countsEnd && !l.ignoresTrailing && s.isCutAt i)
    match acc.2[key]? with
    | some n => (acc.1.push n, acc.2)
    | none => (acc.1.push acc.2.size, acc.2.insert key acc.2.size)) (#[], known)

/-- The changes that make the second of two texts from the first. -/
def changes (l : Likeness) (a b : Side) : List Change :=
  let front := l.sharedFront a b a.size 0 - l.horizon
  let back := if l.countsEnd && a.isCut ≠ b.isCut then 0
    else l.sharedBack a b front a.size 0 - l.horizon
  let (as, known) := l.number a front (a.size - back) ∅
  let (bs, _) := l.number b front (b.size - back) known
  (changesBetween l.thorough as bs).map fun c =>
    { c with first := c.first + front, second := c.second + front }

end Likeness
end Scratchpad.Shell.Differing
