/-!
# Alignments

An alignment of two rows of members marks those that have no partner in the other row; the others are
partners in order, and partners are equal. As few members are marked as can be, members that the other
row does not have at all aside, and a stretch of marks is moved to where it reads best: next to marks in
the other row, or else as far towards the end as it goes. Members are numbers, of which only the equality
counts.
-/

namespace Scratchpad.Shell.Differing

abbrev Row := Array Nat

/-- Which members of a row have no partner. -/
abbrev Marks := Array Bool

/-! ## The middle of an alignment -/

/-- A stretch of each of two rows, each by its first member and the one behind its last. -/
structure Stretch where
  left : Nat
  leftEnd : Nat
  right : Nat
  rightEnd : Nat

/-- How far a search has come on each diagonal, between the lowest and the highest that it goes on. A
diagonal is the distance by which a place in the first row is ahead of its partner, and stands in the list
of places at the distance and some shift. -/
structure Search where
  places : Array Int
  low : Int
  high : Int

namespace Search

def get (s : Search) (shift diagonal : Int) : Int :=
  s.places.getD (diagonal + shift).toNat 0

def set (s : Search) (shift diagonal place : Int) : Search :=
  { s with places := s.places.setIfInBounds (diagonal + shift).toNat place }

/-- The search on one more diagonal at each side, but on none beyond two bounds: those come to rest. A
diagonal beside the others has no place yet, for which another number stands. -/
def widen (s : Search) (shift least most nowhere : Int) : Search :=
  let s := if least < s.low then { s with low := s.low - 1 }.set shift (s.low - 2) nowhere
    else { s with low := s.low + 1 }
  if s.high < most then { s with high := s.high + 1 }.set shift (s.high + 2) nowhere
  else { s with high := s.high - 1 }

end Search

/-- How far partners follow each other from a place on a diagonal. -/
def onward (as bs : Row) (leftEnd rightEnd : Nat) (diagonal : Int) : Nat → Int → Int
  | 0, x => x
  | fuel + 1, x =>
    let y := x - diagonal
    if x < leftEnd && y < rightEnd && as.getD x.toNat 0 = bs.getD y.toNat 0 then
      onward as bs leftEnd rightEnd diagonal fuel (x + 1)
    else x

/-- How far partners go before each other back from a place on a diagonal. -/
def backward (as bs : Row) (left right : Nat) (diagonal : Int) : Nat → Int → Int
  | 0, x => x
  | fuel + 1, x =>
    let y := x - diagonal
    if left < x && right < y && as.getD (x - 1).toNat 0 = bs.getD (y - 1).toNat 0 then
      backward as bs left right diagonal fuel (x - 1)
    else x

/-- A place in each row. -/
structure Meeting where
  left : Nat
  right : Nat

def Meeting.on (diagonal place : Int) : Meeting :=
  ⟨place.toNat, (place - diagonal).toNat⟩

/-- One step of the search from the front on every other diagonal down from the highest; it may meet the
search from the back. -/
def stepOnward (as bs : Row) (w : Stretch) (shift : Int) (odd : Bool) (other : Search) :
    Nat → Int → Search → Search × Option Meeting
  | 0, _, s => (s, none)
  | fuel + 1, d, s =>
    if d < s.low then (s, none)
    else
      let below := s.get shift (d - 1)
      let above := s.get shift (d + 1)
      let x := onward as bs w.leftEnd w.rightEnd d (w.leftEnd - w.left + 1)
        (if below < above then above else below + 1)
      let s := s.set shift d x
      if odd && other.low ≤ d && d ≤ other.high && other.get shift d ≤ x then (s, some (.on d x))
      else stepOnward as bs w shift odd other fuel (d - 2) s

/-- One step of the search from the back. -/
def stepBackward (as bs : Row) (w : Stretch) (shift : Int) (odd : Bool) (other : Search) :
    Nat → Int → Search → Search × Option Meeting
  | 0, _, s => (s, none)
  | fuel + 1, d, s =>
    if d < s.low then (s, none)
    else
      let below := s.get shift (d - 1)
      let above := s.get shift (d + 1)
      let x := backward as bs w.left w.right d (w.leftEnd - w.left + 1)
        (if below < above then below else above - 1)
      let s := s.set shift d x
      if !odd && other.low ≤ d && d ≤ other.high && x ≤ other.get shift d then (s, some (.on d x))
      else stepBackward as bs w shift odd other fuel (d - 2) s

/-- Searches from both ends of a stretch, one step at a time, until they meet. -/
def meet (as bs : Row) (w : Stretch) (shift : Int) (odd : Bool) : Nat → Search → Search → Meeting
  | 0, _, _ => ⟨w.left, w.right⟩
  | fuel + 1, front, back =>
    let least : Int := w.left - w.rightEnd
    let most : Int := w.leftEnd - w.right
    let size := (most - least).toNat + 1
    let front := front.widen shift least most (-1)
    match stepOnward as bs w shift odd back size front.high front with
    | (_, some found) => found
    | (front, none) =>
      let back := back.widen shift least most (as.size + bs.size + 2)
      match stepBackward as bs w shift odd front size back.high back with
      | (_, some found) => found
      | (back, none) => meet as bs w shift odd fuel front back

/-- A place in the middle of a shortest way through a stretch. -/
def middle (as bs : Row) (w : Stretch) : Meeting :=
  let shift : Int := (w.rightEnd : Int) - w.left + 1
  let room := Array.replicate (w.leftEnd - w.left + (w.rightEnd - w.right) + 3) (0 : Int)
  let first : Int := w.left - w.right
  let last : Int := w.leftEnd - w.rightEnd
  let front : Search := (⟨room, first, first⟩ : Search).set shift first w.left
  let back : Search := (⟨room, last, last⟩ : Search).set shift last w.leftEnd
  meet as bs w shift ((first - last) % 2 ≠ 0) (as.size + bs.size + 1) front back

/-- The stretch without the partners at its beginning. -/
def trimFront (as bs : Row) : Nat → Stretch → Stretch
  | 0, w => w
  | fuel + 1, w =>
    if w.left < w.leftEnd && w.right < w.rightEnd && as.getD w.left 0 = bs.getD w.right 0 then
      trimFront as bs fuel { w with left := w.left + 1, right := w.right + 1 }
    else w

/-- The stretch without the partners at its end. -/
def trimBack (as bs : Row) : Nat → Stretch → Stretch
  | 0, w => w
  | fuel + 1, w =>
    if w.left < w.leftEnd && w.right < w.rightEnd &&
        as.getD (w.leftEnd - 1) 0 = bs.getD (w.rightEnd - 1) 0 then
      trimBack as bs fuel { w with leftEnd := w.leftEnd - 1, rightEnd := w.rightEnd - 1 }
    else w

/-- Marks members of a row from one place up to another. -/
def mark (marks : Marks) (first behind : Nat) : Marks :=
  (List.range' first (behind - first)).foldl (fun m i => m.setIfInBounds i true) marks

/-- Marks the members of a stretch that have no partner. Each half of a stretch is shorter than the whole,
so that the fuel, one more than the length of both rows, is never used up. -/
def markStretch (as bs : Row) : Nat → Stretch → Marks × Marks → Marks × Marks
  | 0, _, marks => marks
  | fuel + 1, w, marks =>
    let w := trimFront as bs (w.leftEnd - w.left) w
    let w := trimBack as bs (w.leftEnd - w.left) w
    if w.left = w.leftEnd then (marks.1, mark marks.2 w.right w.rightEnd)
    else if w.right = w.rightEnd then (mark marks.1 w.left w.leftEnd, marks.2)
    else
      let m := middle as bs w
      let marks := markStretch as bs fuel { w with leftEnd := m.left, rightEnd := m.right } marks
      markStretch as bs fuel { w with left := m.left, right := m.right } marks

/-! ## Members that are left out -/

/-- What is thought of a member: it is to be aligned, it is left out, or it might be left out among
others that are. -/
inductive Fate
  | stays
  | goes
  | mayGo
deriving DecidableEq

/-- About the square root of a number, a power of two. -/
def rootNear (n : Nat) : Nat :=
  if n < 4 then 1 else 2 * rootNear (n / 4)
termination_by n

/-- What is thought of the members of a row that occur so often in the other one. -/
def fates (row : Row) (countElsewhere : Nat → Nat) : List Fate :=
  let many := 5 * rootNear (row.size / 64)
  row.toList.map fun a =>
    let n := countElsewhere a
    if n = 0 then .goes else if many < n then .mayGo else .stays

/-- Lets members stay that might go and stand at the beginning of a run, up to three that go for sure, or
to the first such one after eight. -/
def keepAtFront : Nat → Nat → List Fate → List Fate
  | _, _, [] => []
  | place, sure, f :: rest =>
    if 8 ≤ place && f = .goes then f :: rest
    else if f = .goes then
      if sure = 2 then f :: rest else f :: keepAtFront (place + 1) (sure + 1) rest
    else .stays :: keepAtFront (place + 1) 0 rest

/-- What becomes of a run of members that go or might go, the first and the last of which go for sure. -/
def settleRun (run : List Fate) : List Fate :=
  let sure := run.map fun f => if f = .mayGo then Fate.stays else f
  if run.length < 4 * run.count .mayGo then sure
  else
    let least := rootNear (run.length / 4) + 1
    let thinned := (run.splitBy (· == ·)).flatMap fun part =>
      if least ≤ part.length && part.all (· = .mayGo) then part.map fun _ => Fate.stays else part
    (keepAtFront 0 0 (keepAtFront 0 0 thinned).reverse).reverse

/-- What becomes of all members: those that might go do so within a run of others that go. -/
def settleFates : Nat → List Fate → List Fate
  | 0, fs => fs
  | _, [] => []
  | fuel + 1, f :: rest =>
    if f = .goes then
      let run := f :: rest.takeWhile (· ≠ .stays)
      let loose := run.reverse.takeWhile (· = .mayGo)
      settleRun (run.take (run.length - loose.length)) ++ loose.map (fun _ => Fate.stays) ++
        settleFates fuel (rest.drop (run.length - 1))
    else .stays :: settleFates fuel rest

/-- Which members of a row are left out. -/
def leftOut (row other : Row) : List Bool :=
  let size := (row.foldl max (other.foldl max 0)) + 1
  let counts := other.foldl (fun (c : Array Nat) a => c.modify a (· + 1)) (Array.replicate size 0)
  (settleFates (row.size + 1) (fates row fun a => counts.getD a 0)).map (· = .goes)

/-! ## Where marks read best -/

/-- A stretch of marks that is moved in its row: its first member, the one behind its last, the place in
the other row that belongs to its end, and its end where it last stood beside marks of the other row. -/
structure Moved where
  own : Marks
  first : Nat
  behind : Nat
  place : Nat
  beside : Option Nat

def isMarked (m : Marks) (i : Nat) : Bool :=
  m.getD i false

/-- The first place from one on that has no mark; the fuel bounds how many have one. -/
def pastMarks (m : Marks) : Nat → Nat → Nat
  | 0, i => i
  | fuel + 1, i => if isMarked m i then pastMarks m fuel (i + 1) else i

/-- The last place before one that has no mark. -/
def beforeMarks (m : Marks) : Nat → Nat
  | 0 => 0
  | i + 1 => if isMarked m i then beforeMarks m i else i

/-- Where a stretch of marks that ends before a place begins. -/
def startOfMarks (m : Marks) : Nat → Nat
  | 0 => 0
  | i + 1 => if isMarked m i then startOfMarks m i else i + 1

/-- Moves a stretch one member back. -/
def Moved.back (other : Marks) (w : Moved) : Moved :=
  { w with
    own := (w.own.setIfInBounds (w.first - 1) true).setIfInBounds (w.behind - 1) false
    first := w.first - 1
    behind := w.behind - 1
    place := beforeMarks other w.place }

/-- Moves a stretch back as far as it goes, which joins it to those in front. -/
def moveBack (row : Row) (other : Marks) : Nat → Moved → Moved
  | 0, w => w
  | fuel + 1, w =>
    if 0 < w.first && row.getD (w.first - 1) 0 = row.getD (w.behind - 1) 0 then
      let w := w.back other
      moveBack row other fuel { w with first := startOfMarks w.own w.first }
    else w

/-- Moves a stretch on as far as it goes, which joins it to those behind. -/
def moveOn (row : Row) (other : Marks) : Nat → Moved → Moved
  | 0, w => w
  | fuel + 1, w =>
    if w.behind < row.size && row.getD w.first 0 = row.getD w.behind 0 then
      let own := (w.own.setIfInBounds w.first false).setIfInBounds w.behind true
      let behind := pastMarks own row.size (w.behind + 1)
      let place := pastMarks other other.size (w.place + 1)
      moveOn row other fuel {
        own, first := w.first + 1, behind, place
        beside := if w.place + 1 < place then some behind else w.beside }
    else w

/-- Moves a stretch to and fro until it grows no more. -/
def gather (row : Row) (other : Marks) : Nat → Moved → Moved
  | 0, w => w
  | fuel + 1, w =>
    let length := w.behind - w.first
    let w := moveBack row other row.size w
    let isBeside := 0 < w.place && isMarked other (w.place - 1)
    let w := moveOn row other row.size { w with beside := if isBeside then some w.behind else none }
    if w.behind - w.first = length then w else gather row other fuel w

/-- Moves a stretch back to where it stood beside marks of the other row. -/
def standBeside (other : Marks) (goal : Nat) : Nat → Moved → Moved
  | 0, w => w
  | fuel + 1, w => if goal < w.behind then standBeside other goal fuel (w.back other) else w

/-- Moves all stretches of marks in a row from a place on, which belongs to a place in the other row. -/
def moveMarks (row : Row) (other : Marks) : Nat → Nat → Nat → Marks → Marks
  | 0, _, _, own => own
  | fuel + 1, i, j, own =>
    if row.size ≤ i then own
    else if !isMarked own i then moveMarks row other fuel (i + 1) (pastMarks other other.size j + 1) own
    else
      let w := gather row other (row.size + 1)
        ⟨own, i, pastMarks own row.size (i + 1), pastMarks other other.size j, none⟩
      let w := match w.beside with
        | some goal => standBeside other goal row.size w
        | none => w
      moveMarks row other fuel w.behind w.place w.own

/-! ## Alignments -/

/-- Puts marks behind each other: one for each member that is left out, and those of the others. -/
def spread (out : List Bool) (marks : Marks) : Marks :=
  (out.foldl (fun (acc : Marks × Nat) b =>
    if b then (acc.1.push true, acc.2) else (acc.1.push (isMarked marks acc.2), acc.2 + 1)) (#[], 0)).1

def kept (row : Row) (out : List Bool) : Row :=
  ((row.toList.zip out).filterMap fun (a, b) => if b then none else some a).toArray

/-- Marks the members of two rows that have no partner. A thorough alignment thinks of all members. -/
def align (thorough : Bool) (as bs : Row) : Marks × Marks :=
  let out (row other : Row) : List Bool :=
    if thorough then row.toList.map fun _ => false else leftOut row other
  let outA := out as bs
  let outB := out bs as
  let xs := kept as outA
  let ys := kept bs outB
  let (ma, mb) := markStretch xs ys (xs.size + ys.size + 1) ⟨0, xs.size, 0, ys.size⟩
    (Array.replicate xs.size false, Array.replicate ys.size false)
  let ma := spread outA ma
  let mb := spread outB mb
  let ma := moveMarks as mb (as.size + 1) 0 0 ma
  (ma, moveMarks bs ma (bs.size + 1) 0 0 mb)

/-- A change: behind how many members of each row it begins, and how many members are taken out and put
in. -/
structure Change where
  first : Nat
  second : Nat
  dropped : Nat
  added : Nat
deriving DecidableEq, Repr

/-- The changes between partners that marks tell of. -/
def changesFrom : Nat → Nat → Nat → List Bool → List Bool → List Change
  | 0, _, _, _, _ => []
  | fuel + 1, i, j, as, bs =>
    let d := (as.takeWhile id).length
    let e := (bs.takeWhile id).length
    let rest := match as.drop d, bs.drop e with
      | [], [] => []
      | as, bs => changesFrom fuel (i + d + 1) (j + e + 1) (as.drop 1) (bs.drop 1)
    if d = 0 && e = 0 then rest else ⟨i, j, d, e⟩ :: rest

/-- The changes that make the second of two rows from the first. -/
def changesBetween (thorough : Bool) (as bs : Row) : List Change :=
  let (ma, mb) := align thorough as bs
  changesFrom (ma.size + mb.size + 1) 0 0 ma.toList mb.toList

end Scratchpad.Shell.Differing
