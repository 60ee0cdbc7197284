import Scratchpad.Shell.Ordered

/-!
# How found lines are shown

The lines of a file, which of them are selected, and the lines around them that are shown too. What
stands in front of a line, and what was found in it, may be coloured.
-/

namespace Scratchpad.Shell.Tools

/-- How the first match at or after a spot is found: where it begins and where it ends. -/
abbrev Quest := Spot → Option (Spot × Spot)

namespace Quest

/-- The longest match of a pattern. -/
def longest (p : Pattern) : Quest := p.find?

/-- The preferred match of a pattern. -/
def preferred (p : Pattern) : Quest := Pattern.findBy List.head? p

def isIn (q : Quest) (text : Bytes) : Bool :=
  (q (.ofText text)).isSome

/-- The matches in a text that are not empty: how many bytes are in front of each, and of its end. -/
def stretches (q : Quest) (text : Bytes) : List (Nat × Nat) :=
  (Pattern.allBy q text).filterMap fun (b, e) =>
    if b.passed < e.passed then some (b.passed, e.passed) else none

end Quest

/-! ## Colours -/

/-- The colours of what is shown, as terminals number them; an empty one leaves it as it is. `swaps` says
that the colours of whole lines change places if the lines without a match are selected, and
`erases` that the rest of a line on the screen takes them on. -/
structure Colours where
  selected : String := "01;31"
  context : String := "01;31"
  name : String := "35"
  number : String := "32"
  offset : String := "32"
  sign : String := "36"
  selectedLine : String := ""
  contextLine : String := ""
  swaps : Bool := false
  erases : Bool := true

namespace Colours

/-- No colours at all. -/
def none : Colours where
  selected := ""
  context := ""
  name := ""
  number := ""
  offset := ""
  sign := ""

/-- What makes a terminal show a colour, and none if it is empty. -/
def sequence (c : Colours) (colour : String) : Bytes :=
  let start : Bytes := [0x1B, 0x5B]
  start ++ Bytes.ofString colour ++ [0x6D] ++ if c.erases then start ++ [0x4B] else []

def opening (c : Colours) (colour : String) : Bytes :=
  if colour.isEmpty then [] else c.sequence colour

def closing (c : Colours) (colour : String) : Bytes :=
  if colour.isEmpty then [] else c.sequence ""

def paint (c : Colours) (colour : String) (bytes : Bytes) : Bytes :=
  c.opening colour ++ bytes ++ c.closing colour

def isColour (text : String) : Bool :=
  text.toList.all fun c => c.isDigit || c = ';'

/-- The colours with some of them named by a text such as `mt=01;34:ne`. What comes after a mistake does
not count. -/
def named (c : Colours) (text : String) : Colours :=
  ((text.splitOn ":").foldl (fun (acc : Colours × Bool) part =>
    let (c, goesOn) := acc
    if !goesOn then acc
    else
      match part.splitOn "=" with
      | ["rv"] => ({ c with swaps := true }, true)
      | ["ne"] => ({ c with erases := false }, true)
      | [name, value] =>
        if !isColour value then (c, false)
        else
          (match name with
            | "mt" => { c with selected := value, context := value }
            | "ms" => { c with selected := value }
            | "mc" => { c with context := value }
            | "fn" => { c with name := value }
            | "ln" => { c with number := value }
            | "bn" => { c with offset := value }
            | "se" => { c with sign := value }
            | "sl" => { c with selectedLine := value }
            | "cx" => { c with contextLine := value }
            | _ => c, true)
      | _ => (c, part.isEmpty)) (c, true)).1

end Colours

/-! ## Lines -/

/-- A line of a file, with its number and the byte it begins at, and whether it is selected. -/
structure Searched where
  line : Bytes
  number : Nat
  offset : Nat
  selected : Bool

/-- The lines of some bytes and which of them are selected. -/
def searchLines (mark : UInt8) (quest : Option Quest) (inverted : Bool) (bytes : Bytes) :
    List Searched :=
  ((partsOf mark bytes).foldl (fun (acc : List Searched × Nat × Nat) line =>
    let (done, number, offset) := acc
    let selected := quest.any (·.isIn line) != inverted
    (⟨line, number, offset, selected⟩ :: done, number + 1, offset + line.length + 1))
    ([], 1, 0)).1.reverse

/-- Lines with the context that is shown: how many lines before and after a selected one. -/
def withContext (before after : Nat) (lines : List Searched) : List Searched :=
  let mark (reach : Nat) (lines : List Searched) : List (Searched × Bool) :=
    (lines.foldl (fun (acc : List (Searched × Bool) × Nat) l =>
      if l.selected then ((l, true) :: acc.1, reach)
      else ((l, acc.2 ≠ 0) :: acc.1, acc.2 - 1)) ([], 0)).1
  let backward := (mark before lines.reverse).map (·.2)
  let forward := (mark after lines).reverse.map (·.2)
  (lines.zip (backward.zip forward)).filterMap fun (l, b, f) => if b || f then some l else none

/-- How what is found in a file is shown: `width` is how wide numbers are. -/
structure SearchView where
  found : Options
  quest : Option Quest
  colours : Colours
  named : Bool
  width : Nat
  mark : UInt8
  before : Nat
  after : Nat
  most : Option Nat

namespace SearchView

def isInverted (v : SearchView) : Bool := v.found.has "invert-match"

def showsContext (v : SearchView) : Bool :=
  ["context", "before-context", "after-context"].any v.found.has

def nameOf (v : SearchView) (name : String) : Bytes :=
  v.colours.paint v.colours.name (Bytes.ofString name)

def signOf (v : SearchView) (sign : String) : Bytes :=
  v.colours.paint v.colours.sign (Bytes.ofString sign)

/-- What stands in front of a line; an empty one is not set off. -/
def lead (v : SearchView) (name : String) (sign : String) (isEmpty : Bool) (number offset : Nat) :
    Bytes :=
  let numeral (colour : String) (n : Nat) : Bytes :=
    v.colours.paint colour (Bytes.ofString (padLeft v.width n.repr)) ++ v.signOf sign
  let numbered := v.found.has "line-number"
  let placed := v.found.has "byte-offset"
  (if v.named then v.nameOf name ++ (if v.found.has "null" then [0] else v.signOf sign) else []) ++
    (if numbered then numeral v.colours.number number else []) ++
    (if placed then numeral v.colours.offset offset else []) ++
    (if v.found.has "initial-tab" && (v.named || numbered || placed) && !isEmpty then [9] else [])

/-- The lines of a file up to the last one that may be selected. -/
def lines (v : SearchView) (bytes : Bytes) : List Searched :=
  let all := searchLines v.mark v.quest v.isInverted bytes
  match v.most with
  | none => all
  | some n =>
    let last? := (all.filter (·.selected))[n - 1]?
    if n = 0 then []
    else
      match last? with
      | none => all
      | some last =>
        all.filterMap fun l =>
          if l.number ≤ last.number then some l
          else if l.number ≤ last.number + v.after then some { l with selected := false }
          else none

/-- A line with what was found in it coloured, and the rest of it as well if lines are. -/
def coloured (v : SearchView) (l : Searched) : Bytes :=
  let c := v.colours
  let whole := if l.selected != (v.isInverted && c.swaps) then c.selectedLine else c.contextLine
  let colour := if l.selected then c.selected else c.context
  let stretches := if l.selected != v.isInverted && colour ≠ "" then
      (v.quest.map fun q => q.stretches l.line).getD []
    else []
  let (shown, place) := stretches.foldl (fun (acc : List Bytes × Nat) (b, e) =>
    let front := c.opening whole ++ (l.line.drop acc.2).take (b - acc.2)
    (c.paint colour ((l.line.drop b).take (e - b)) :: front :: acc.1, e)) ([], 0)
  let rest := l.line.drop place
  shown.reverse.flatten ++ if rest.isEmpty then [] else c.paint whole rest

/-- What is shown of a line. -/
def show1 (v : SearchView) (name : String) (l : Searched) : Bytes :=
  let sign := if l.selected then ":" else "-"
  if v.found.has "only-matching" then
    if l.selected && !v.isInverted then
      ((v.quest.map fun q => q.stretches l.line).getD []).flatMap fun (b, e) =>
        v.lead name sign false l.number (l.offset + b) ++
          v.colours.paint v.colours.selected ((l.line.drop b).take (e - b)) ++ [v.mark]
    else []
  else v.lead name sign l.line.isEmpty l.number l.offset ++ v.coloured l ++ [v.mark]

/-- The line that stands between stretches of lines. -/
def gapLine (v : SearchView) : Bytes :=
  match v.found.reverse.find? fun (name, _) =>
    name = "group-separator" || name = "no-group-separator" with
  | some ("no-group-separator", _) => []
  | some (_, text) => v.signOf text ++ [newline]
  | none => v.signOf "--" ++ [newline]

/-- What is shown of a file; `later` says that something was shown of another one before it. -/
def file (v : SearchView) (later : Bool) (name : String) (lines : List Searched) : Bytes :=
  let count := lines.countP (·.selected)
  let nameEnd : Bytes := if v.found.has "null" then [0] else [newline]
  if v.found.has "quiet" || v.found.has "silent" then []
  else if v.found.has "files-with-matches" then
    if 0 < count then v.nameOf name ++ nameEnd else []
  else if v.found.has "files-without-match" then
    if count = 0 then v.nameOf name ++ nameEnd else []
  else if v.found.has "count" then
    (if v.named then
      v.nameOf name ++ (if v.found.has "null" then [0] else v.signOf ":") else []) ++
      Bytes.ofString (count.repr ++ "\n")
  else
    let shown := withContext v.before v.after lines
    (shown.foldl (fun (acc : List Bytes × Option Nat) l =>
      let gap := match acc.2 with
        | some n => n + 1 < l.number
        | none => later
      (v.show1 name l :: (if gap && v.showsContext then [v.gapLine] else []) ++ acc.1, some l.number))
      ([], none)).1.reverse.flatten

end SearchView
end Scratchpad.Shell.Tools
