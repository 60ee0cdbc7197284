/-!
# Fields

A word expands to pieces, and the pieces are parted into fields: at separators, where they are not
quoted, and at the borders between arguments. The two dialects differ in what they make of blanks and
of separators next to one another.
-/

namespace Scratchpad.Shell

/-- A piece of an expanded word: text that stays whole, in which wildcards mean something unless it
is quoted, text that is split at separators, quoted texts that stay apart, or a border between two
fields. -/
inductive Piece
  | fixed (cs : List Char) (quoted : Bool)
  | soft (cs : List Char)
  | apart (texts : List (List Char))
  | border

namespace Piece

def chars : Piece → List Char
  | .fixed cs _ | .soft cs => cs
  | .apart texts => [' '].intercalate texts
  | .border => [' ']

def isQuoted : Piece → Bool
  | .fixed _ quoted => quoted
  | .apart _ => true
  | _ => false

end Piece

/-- Characters, with a mark on those that stand only for themselves. -/
abbrev Field := List (Char × Bool)

def Field.chars (f : Field) : List Char :=
  f.map (·.1)

/-- The fields found so far, last one first, and the one that is being built, reversed. Of what came
last it is known whether blanks have ended a field, and whether it was texts that stay apart. -/
structure Fields where
  done : List Field
  current : Option Field
  parted : Bool
  behindApart : Bool

namespace Fields

def none : Fields := ⟨[], .none, false, false⟩

/-- What parts texts that are split together; no text holds it. -/
def parting : Char := '\x00'

def isSpace (c : Char) : Bool :=
  c = ' ' || c = '\t' || c = '\n' || c = parting

def isSeparator (separators : List Char) (c : Char) : Bool :=
  c = parting || separators.contains c

/-- Ends the field that is being built, if there is one. -/
def close (f : Fields) : Fields :=
  match f.current with
  | some cs => { f with done := cs.reverse :: f.done, current := .none }
  | .none => f

/-- Ends the field that is being built, even if there is nothing in it. -/
def cut (f : Fields) : Fields :=
  { f with done := (f.current.getD []).reverse :: f.done, current := .none }

/-- Adds characters that are not split. -/
def extend (f : Fields) (cs : List Char) (quoted : Bool) : Fields :=
  let marked := cs.reverse.map fun c => (c, quoted)
  { f with current := some (marked ++ f.current.getD []) }

/-! ## The rich dialect -/

/-- Takes one character: a blank separator ends a field if there is one, any other separator ends a
field even if it is empty, unless blanks have ended it already. -/
def addSoft (separators : List Char) (f : Fields) (c : Char) : Fields :=
  if !isSeparator separators c then { f.extend [c] false with parted := false }
  else if isSpace c then { f.close with parted := f.parted || f.current.isSome }
  else if f.current.isSome then { f.close with parted := false }
  else if f.parted then { f with parted := false }
  else f.cut

def add (separators : List Char) (f : Fields) : Piece → Fields
  | .fixed cs quoted => { f.extend cs quoted with parted := false }
  | .soft cs => cs.foldl (addSoft separators) f
  | .apart texts =>
    match texts with
    | [] => f
    | first :: rest =>
      rest.foldl (fun f cs => f.close.extend cs true) { f.extend first true with parted := false }
  | .border => { f.close with parted := false }

/-! ## The plain dialect -/

/-- Takes one character of a split text. Blanks go together, and with one other separator behind them;
those in front of a field are passed over. Right behind texts that stay apart every separator ends a
field. -/
def addSplit (separators : List Char) (f : Fields) (c : Char) : Fields :=
  let ends := isSeparator separators c
  let blank := ends && isSpace c
  if f.parted && blank then { f with current := .none }
  else if f.parted && ends then { f with current := .none, parted := false }
  else if !ends then { f.extend [c] false with parted := false }
  else if blank && !f.behindApart then
    match f.current with
    | .none => { f with parted := false }
    | some _ => { f.cut with parted := true }
  else { f.cut with parted := false }

/-- Takes a piece. A split text does not know of blanks in an earlier one. -/
def addPlain (separators : List Char) (f : Fields) : Piece → Fields
  | .fixed cs quoted => f.extend cs quoted
  | .soft cs => { cs.foldl (addSplit separators) { f with parted := false } with behindApart := false }
  | .apart texts =>
    let put (f : Fields) (cs : List Char) : Fields := if cs = [] then f else f.extend cs true
    match texts with
    | [] => f
    | first :: rest =>
      { rest.foldl (fun f cs => put f.cut cs) (put f first) with parted := false, behindApart := true }
  | .border => f.close

/-- The fields of some pieces. What stays apart at the end is a field even if it is empty. -/
def ofPieces (rich : Bool) (separators : List Char) (pieces : List Piece) : List Field :=
  if rich then (pieces.foldl (add separators) none).close.done.reverse
  else
    let f := pieces.foldl (addPlain separators) none
    (if f.behindApart then f.cut else f.close).done.reverse

end Fields

end Scratchpad.Shell
