import Scratchpad.Shell.Differing.Forms

/-!
# Texts side by side

Two texts stand in two columns, with a sign between them where they differ. A line that is too long is
cut, and tabs go on to the next stop of the whole line unless they are shown as blanks.
-/

namespace Scratchpad.Shell.Differing

/-- The columns: how wide each is, and where the second begins. -/
structure Columns where
  half : Nat
  offset : Nat
  /-- Lines that both texts have stand on the left only. -/
  leftOnly : Bool
  /-- Lines that both texts have are not shown. -/
  hidesCommon : Bool

namespace Columns

/-- The columns of a line of some width: as wide as can be, then with as much room between them as can
be, and with the second one at a stop of tabs unless those are shown as blanks. -/
def ofWidth (width tabSize : Nat) (expandsTabs leftOnly hidesCommon : Bool) : Columns :=
  let step := if expandsTabs then 1 else tabSize
  let gutter := 3
  let loose := width / 2 + (step + gutter) / 2 + (width % 2) * ((step + gutter) % 2)
  let offset := loose - loose % step
  let half := min (offset - gutter) (width - offset)
  { half, offset := if half = 0 then width else offset, leftOnly, hidesCommon }

end Columns

/-- Blanks that go on from one column to another, as many of them tabs as can be. -/
def gapTo (v : Layout) : Nat → Nat → Nat → Bytes
  | 0, _, _ => []
  | fuel + 1, column, goal =>
    let stop := column + v.tabSize - column % v.tabSize
    if !v.expandsTabs && stop ≤ goal then 9 :: gapTo v fuel stop goal
    else List.replicate (goal - column) 0x20

/-- A line that is being written into a column: the column that it has come to in its text, and the one
it has come to on the page. -/
structure Half where
  out : Bytes
  inside : Nat
  shown : Nat

/-- One more byte of a line in a column that begins somewhere and has some width. -/
def Half.push (v : Layout) (indent width : Nat) (h : Half) (b : UInt8) : Half :=
  if b = 9 then
    let n := v.tabSize - h.inside % v.tabSize
    let h' := { h with inside := h.inside + n }
    if h.inside ≠ h.shown then h'
    else
      let stop := h.shown + n
      if v.expandsTabs then
        let stop := min stop width
        { h' with out := h.out ++ List.replicate (stop - h.shown) 0x20, shown := max stop h.shown }
      else if stop < width then { h' with out := h.out ++ [9], shown := stop }
      else h'
  else if b = 0x0D then ⟨h.out ++ b :: gapTo v (indent + 1) 0 indent, 0, 0⟩
  else if b = 8 then
    if h.inside = 0 then h
    else
      let inside := h.inside - 1
      if inside < width then
        if h.shown ≤ inside then ⟨h.out ++ List.replicate (inside - h.shown) 0x20, inside, inside⟩
        else ⟨h.out ++ [b], inside, inside⟩
      else { h with inside }
  else if Quoting.isPrintable b then
    if h.inside < width then ⟨h.out ++ [b], h.inside + 1, h.inside + 1⟩
    else { h with inside := h.inside + 1 }
  else if 0x80 ≤ b || b = 0 || b = 0x0B || b = 0x0C then
    if h.inside < width then { h with out := h.out ++ [b] } else h
  else if h.inside ≤ width then { h with out := h.out ++ [b], shown := h.inside }
  else h

/-- A line in a column, and the column where it ends. -/
def halfLine (v : Layout) (indent width : Nat) (line : Bytes) : Bytes × Nat :=
  let h := line.foldl (Half.push v indent width) ⟨[], 0, 0⟩
  (h.out, h.shown)

/-- A line of the page: what stands on the left and on the right, each with whether it has its end, and the
sign between them. -/
def sideRow (v : Layout) (k : Columns) (left right : Option (Bytes × Bool)) (sign : Char) : Bytes :=
  let endsLeft := left.any (·.2)
  let endsRight := right.any (·.2)
  let sign := if sign = '|' && endsLeft ≠ endsRight then (if endsLeft then '/' else '\\') else sign
  let (front, column) := match left with
    | some (line, _) => halfLine v 0 k.half line
    | none => ([], 0)
  let middle := (k.half + k.offset - 1) / 2
  let (front, column) := if sign = ' ' then (front, column)
    else (front ++ gapTo v (middle + 1) column middle ++ Bytes.ofString (String.singleton sign),
      middle + 1)
  let back := match right with
    | some (line, _) =>
      if line.isEmpty then []
      else gapTo v (k.offset + 1) column k.offset ++ (halfLine v k.offset k.half line).1
    | none => []
  let row := front ++ back ++ if endsLeft || endsRight then [newline] else []
  match sign with
  | '<' => v.painted Palette.deleted row
  | '>' => v.painted Palette.added row
  | _ => row

/-- The form in which both texts stand side by side. -/
def sideForm (v : Layout) (k : Columns) (a b : Side) (changes : List Change) : Bytes :=
  let ended (s : Side) (i : Nat) : Option (Bytes × Bool) := some (s.line i, !s.isCutAt i)
  let rows (n : Nat) (row : Nat → Bytes) : Bytes := (List.range n).flatMap row
  let common (i j behindFirst behindSecond : Nat) : Bytes :=
    if k.hidesCommon then []
    else
      let n := if k.leftOnly then 0 else min (behindFirst - i) (behindSecond - j)
      rows n (fun m => sideRow v k (ended a (i + m)) (ended b (j + m)) ' ') ++
        (if k.leftOnly then []
        else rows (behindSecond - j - n) fun m => sideRow v k none (ended b (j + n + m)) ')') ++
        rows (behindFirst - i - n) fun m => sideRow v k (ended a (i + n + m)) none '('
  let (out, i, j) := changes.foldl (fun (acc : Bytes × Nat × Nat) c =>
    let (out, i, j) := acc
    let pairs := min c.dropped c.added
    (out ++ common i j c.first c.second ++
      rows pairs (fun m => sideRow v k (ended a (c.first + m)) (ended b (c.second + m)) '|') ++
      rows (c.added - pairs) (fun m => sideRow v k none (ended b (c.second + pairs + m)) '>') ++
      rows (c.dropped - pairs) (fun m => sideRow v k (ended a (c.first + pairs + m)) none '<'),
      c.behindFirst, c.behindSecond)) ([], 0, 0)
  out ++ common i j a.size b.size

end Scratchpad.Shell.Differing
