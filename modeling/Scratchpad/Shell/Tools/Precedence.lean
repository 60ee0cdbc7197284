import Scratchpad.Shell.Tools.Keys

/-!
# Topological order

The tool that puts names into an order in which each comes before those that wait for it. When
only names are left that wait for each other, a loop is told, one of its relations is dropped, and
the work goes on.
-/

namespace Scratchpad.Shell.Tools

open Deed (told)

/-- What comes before what: the names in order that are left, and for every name how many others it
waits for and which wait for it, the last one told first. -/
structure Precedence where
  names : List Bytes
  waits : List (Bytes × Nat)
  followers : List (Bytes × List Bytes)

/-- A loop: its names, and the relation that closes it. -/
structure Loop where
  names : List Bytes
  before : Bytes
  after : Bytes

/-- The names found so far on the way back along a loop: the last one, and where each leads to. -/
structure Trail where
  front : Option Bytes
  links : List (Bytes × Bytes)

/-- The names on a trail from one of them to another; the fuel bounds them. -/
def Trail.names (t : Trail) (last : Bytes) : Nat → Bytes → List Bytes
  | 0, _ => []
  | fuel + 1, name =>
    if name = last then [name]
    else name :: ((t.links.lookup name).map (t.names last fuel)).getD []

namespace Precedence

def ofPairs (pairs : List (Bytes × Bytes)) : Precedence :=
  let names := (pairs.flatMap fun (a, b) => [a, b]).eraseDups.mergeSort fun a b => compare a b != .gt
  let relations := pairs.filter fun (a, b) => a ≠ b
  { names
    waits := names.map fun name => (name, relations.countP fun (_, b) => b = name)
    followers := names.map fun name =>
      (name, (relations.filterMap fun (a, b) => if a = name then some b else none).reverse) }

def waitsOf (p : Precedence) (name : Bytes) : Nat :=
  (p.waits.lookup name).getD 0

def followersOf (p : Precedence) (name : Bytes) : List Bytes :=
  (p.followers.lookup name).getD []

/-- A name waits for one less. -/
def release (p : Precedence) (name : Bytes) : Precedence :=
  { p with waits := p.waits.map fun (n, k) => (n, if n = name then k - 1 else k) }

/-- Takes names that wait for nothing off a queue, with what this frees; the fuel bounds how many.
The names taken are in front of `done`, the last first. -/
def drain : Nat → List Bytes → List Bytes → Precedence → List Bytes × Precedence
  | 0, _, done, p => (done, p)
  | _, [], done, p => (done, p)
  | fuel + 1, name :: queue, done, p =>
    let (p, freed) := (p.followersOf name).foldl
      (fun (acc : Precedence × List Bytes) follower =>
        let p := acc.1.release follower
        (p, if p.waitsOf follower = 0 then acc.2 ++ [follower] else acc.2)) (p, [])
    drain fuel (queue ++ freed) (name :: done) { p with names := p.names.filter (· ≠ name) }

/-- Goes through the names that wait, and puts each in front of the trail that the name in front
waits for. One that is on the trail already closes a loop. -/
def follow (p : Precedence) : List Bytes → Trail → Trail ⊕ Loop
  | [], t => .inl t
  | name :: names, t =>
    if p.waitsOf name = 0 then p.follow names t
    else
      match t.front with
      | none => p.follow names { t with front := some name }
      | some front =>
        if !(p.followersOf name).contains front then p.follow names t
        else if (t.links.lookup name).isSome then
          .inr ⟨t.names name (p.waits.length + 1) front, name, front⟩
        else p.follow names ⟨some name, (name, front) :: t.links⟩

/-- The first loop among the names that are left; the fuel bounds how often they are gone through. -/
def loop? (p : Precedence) : Nat → Trail → Option Loop
  | 0, _ => none
  | fuel + 1, t =>
    match p.follow p.names t with
    | .inl t => if t.front.isNone then none else p.loop? fuel t
    | .inr found => some found

/-- Drops the relation that closes a loop. -/
def dropClosing (p : Precedence) (found : Loop) : Precedence :=
  { p.release found.after with
    followers := p.followers.map fun (name, others) =>
      (name, if name = found.before then others.erase found.after else others) }

/-- All names in an order that keeps the relations but those that were dropped, with the loops found
on the way; the fuel bounds their number. -/
def sorted : Nat → Precedence → List (List Bytes ⊕ Loop)
  | 0, _ => []
  | fuel + 1, p =>
    let free := p.names.filter fun name => p.waitsOf name = 0
    let (done, p) := drain (p.names.length + 1) free [] p
    if p.names = [] then [.inl done.reverse]
    else
      match p.loop? (p.names.length + 1) ⟨none, []⟩ with
      | none => [.inl done.reverse]
      | some found => .inl done.reverse :: .inr found :: sorted fuel (p.dropClosing found)

end Precedence

/-- Puts names into an order in which each comes before those that wait for it. -/
def tsort (s : Scene) : Deed :=
  reading s "tsort" 1 [] fun _ operands =>
    match operands with
    | _ :: extra :: _ => extraOperand s "tsort" extra
    | operands =>
      finding s "tsort" plainly operands fun f =>
        let words := (f.bytes.splitBy fun a b => Key.isGap a = Key.isGap b).filter fun part =>
          part.head?.any fun b => !Key.isGap b
        let name := Quoting.name (operands.headD "-")
        let pairs : List (Bytes × Bytes) :=
          (List.range (words.length / 2)).map fun i => (words.getD (2 * i) [], words.getD (2 * i + 1) [])
        if words.length % 2 = 1 then
          { f.answer [] with
            writes := f.errors ++ [told ("tsort: " ++ name ++
              ": input contains an odd number of tokens")]
            code := some 1 }
        else
          let found := (Precedence.ofPairs pairs).sorted (pairs.length + 1)
          let isLoop : List Bytes ⊕ Loop → Bool := Sum.isRight
          let writes := found.flatMap fun
            | .inl names => [(Outlet.out, ofLines names)]
            | .inr l =>
              told ("tsort: " ++ name ++ ": input contains a loop:") ::
                l.names.map fun name => (.err, Bytes.ofString "tsort: " ++ name ++ [newline])
          { f.answer [] with
            writes := f.errors ++ writes
            code := some (if f.isFine && !found.any isLoop then 0 else 1) }

end Scratchpad.Shell.Tools
