import Scratchpad.Shell.Sed.Program

/-!
# Programs as they are shown

A program of the stream editor, or one edit of it, as it is shown by an editor that tells what it
does. Blocks are set in by two blanks for each one around them.
-/

namespace Scratchpad.Shell.Sed

/-- A byte as it is shown in a pattern or a line. Bytes beyond the first 128 count as negative. -/
def tracedByte (b : UInt8) : Bytes :=
  match b with
  | 7 => [0x5C, 0x61]
  | 9 => [0x5C, 0x74]
  | 10 => [0x5C, 0x6E]
  | 11 => [0x5C, 0x76]
  | 12 => [0x5C, 0x66]
  | 13 => [0x5C, 0x72]
  | 0x5C => [0x5C, 0x5C]
  | b =>
    if 0x20 ≤ b && b < 0x7F then [b]
    else
      let n := if b < 0x80 then b.toNat else 0xFFFFFF00 + b.toNat
      let digits := Nat.toDigits 8 n
      Bytes.ofString ("\\o" ++ String.ofList (List.replicate (3 - digits.length) '0' ++ digits))

def traced (bytes : Bytes) : Bytes := bytes.flatMap tracedByte

namespace Expression

def shown (e : Expression) : Bytes :=
  e.text.flatMap fun b => if b = 0x2F then [0x5C, b] else tracedByte b

end Expression

/-- The pattern between slashes, and nothing between them for the last one used. -/
def shownPattern (e : Option Expression) : Bytes :=
  0x2F :: (e.map Expression.shown).getD [] ++ [0x2F]

def Address.shown : Address → Bytes
  | .line n => Bytes.ofString n.repr
  | .every first step => Bytes.ofString (first.repr ++ "~" ++ step.repr)
  | .last => [0x24]
  | .like e =>
    shownPattern e ++
      Bytes.ofString ((if e.any (·.anyCase) then "I" else "") ++ if e.any (·.byLine) then "M" else "")
  | .after n => Bytes.ofString ("+" ++ n.repr)
  | .multiple n => Bytes.ofString ("~" ++ n.repr)

/-- The escape for a casing. -/
def Casing.mark : Casing → Bytes
  | .plain => [0x5C, 0x45]
  | .upper => [0x5C, 0x55]
  | .lower => [0x5C, 0x4C]
  | .upperOnce => [0x5C, 0x75]
  | .lowerOnce => [0x5C, 0x6C]

/-- A replacement as it is shown while it is gone through: what was shown, the casing of what was
shown last, the casing in force, that for the next piece, and the text in front of it. -/
structure Retelling where
  done : Bytes := []
  last : Casing := .plain
  mode : Casing := .plain
  once : Casing := .plain
  text : Bytes := []

namespace Retelling

/-- Shows a piece, with the mark of its casing if that is not the one of the piece before. -/
def close (r : Retelling) (asked : Bytes) : Retelling :=
  let casing := if r.once = .plain then r.mode else r.once
  { r with
    done := r.done ++ (if casing = r.last then [] else casing.mark) ++ r.text ++ asked
    last := casing
    text := []
    once := if r.text = [] && asked = [] then r.once else .plain }

def add (r : Retelling) : Insert → Retelling
  | .text bytes => { r with text := r.text ++ bytes }
  | .matched 0 => r.close [0x26]
  | .matched g => r.close (Bytes.ofString ("\\" ++ g.repr))
  | .casing .upperOnce => { r.close [] with once := .upperOnce }
  | .casing .lowerOnce => { r.close [] with once := .lowerOnce }
  | .casing mode => { r.close [] with mode, once := .plain }

end Retelling

def shownInsertion (insertion : List Insert) : Bytes :=
  let r := insertion.foldl Retelling.add {}
  (if r.text = [] then r else r.close []).done

def Substitution.shown (s : Substitution) : Bytes :=
  shownPattern s.pattern ++ shownInsertion s.insertion ++ [0x2F] ++
    Bytes.ofString (
      (if s.pattern.any (·.anyCase) then "i" else "") ++ (if s.pattern.any (·.byLine) then "m" else "") ++
      (if s.all then "g" else "") ++ (if s.performs then "e" else "") ++ (if s.shows then "p" else "") ++
      (s.nth.map Nat.repr).getD "") ++
    (s.target.map fun name => 0x77 :: name).getD []

def Action.shown (a : Action) : Bytes :=
  let text (s : String) : Bytes := Bytes.ofString s
  let named (s : String) (name : Bytes) : Bytes :=
    text s ++ if name = [] then [] else 0x20 :: name
  let numbered (s : String) (n : Option Nat) : Bytes :=
    text (s ++ (n.map fun n => " " ++ n.repr).getD "")
  let added (s : String) (bytes : Bytes) : Bytes := text s ++ 0x5C :: bytes
  match a with
  | .substitute s => text "s" ++ s.shown
  | .recode table =>
    let table := (table.reverse.filter fun (a, b) => a ≠ b).mergeSort fun x y => x.1 ≤ y.1
    text "y/" ++ table.map (·.1) ++ text "/" ++ table.map (·.2) ++ text "/"
  | .delete => text "d"
  | .deleteLine => text "D"
  | .show => text "p"
  | .showLine => text "P"
  | .showVisible width => numbered "l" width
  | .quit code silent => numbered (if silent then "Q" else "q") (if code = 0 then none else some code)
  | .number => text "="
  | .next => text "n"
  | .nextInto => text "N"
  | .hold => text "h"
  | .holdInto => text "H"
  | .fetch => text "g"
  | .fetchInto => text "G"
  | .exchange => text "x"
  | .append bytes => added "a" bytes
  | .insert bytes => added "i" bytes
  | .change bytes => added "c" bytes
  | .readFile name => text "r " ++ name
  | .readLine name => text "R " ++ name
  | .writeFile name line => text (if line then "W" else "w") ++ name
  | .fileName => text "F"
  | .perform command => text "e " ++ command.getD []
  | .clear => text "z"
  | .open' => text "\x7b"
  | .close => text "\x7d"
  | .label name => text ":" ++ name
  | .jump name => named "b" name
  | .jumpIf changed name => named (if changed then "t" else "T") name
  | .nothing => []

/-- An edit on a line of its own at some depth, and the depth behind it. -/
def Edit.shown (depth : Int) (e : Edit) : Bytes × Int :=
  let before := match e.action with
    | .close => depth - 1
    | _ => depth
  let after := match e.action with
    | .open' => before + 1
    | _ => before
  let addresses := (e.first.map Address.shown).getD [] ++
    (e.second.map fun a => 0x2C :: a.shown).getD []
  (List.replicate (2 * before.toNat) 0x20 ++ addresses ++ (if e.negated then [0x21] else []) ++
    (if e.first.isSome then [0x20] else []) ++ e.action.shown ++ [newline], after)

/-- A whole program. -/
def shownProgram (program : List Edit) : Bytes :=
  let (lines, _) := program.foldl (fun (acc : List Bytes × Int) e =>
    match e.action with
    | .nothing => acc
    | _ =>
      let (line, depth) := e.shown acc.2
      (line :: acc.1, depth)) ([], 1)
  Bytes.ofString "SED PROGRAM:\n" ++ lines.reverse.flatten

end Scratchpad.Shell.Sed
