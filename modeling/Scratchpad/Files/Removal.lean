import Scratchpad.Files.System

/-!
# Taking entries away and putting them in

Operations on the entries of directories: what is removed is gone with all that was in it, and what
is put in place of an entry replaces it.
-/

namespace Scratchpad.Files.System

/-- Takes an entry away. A directory must be asked for as one, and must be empty then unless its
contents are to go too. -/
def remove (fs : System) (directories contents : Bool) (p : Path) : Except Error System := do
  match ← fs.resolve false (if directories then Path.dropSlashes p else p) with
  | .absent .. => throw .noEntry
  | .found place node =>
    match node with
    | .dir _ entries =>
      if !directories then throw .isDirectory
      if !entries.isEmpty && !contents then throw .notEmpty
      if place = [] then throw .busy
    | _ => pure ()
    return fs.erase place

/-- Puts a node at a path, in place of what is there. -/
def put (fs : System) (p : Path) (node : Node) : Except Error System := do
  match ← fs.resolve false p with
  | .absent dir name => return fs.insert dir name node
  | .found place _ => return { fs with root := fs.root.modify (fun _ => node) place }

/-- Makes a link; there must be nothing in its place. -/
def makeLink (fs : System) (target p : Path) : Except Error System := do
  match ← fs.resolve false p with
  | .found .. => throw .alreadyExists
  | .absent dir name => return fs.insert dir name (.link { mode := 0o777, changed := fs.now } target)

/-- The path from the root to what a path leads to, through all links. -/
def canonical (fs : System) (p : Path) : Except Error Path := do
  let shown (place : Place) : Path :=
    if place = [] then [Path.slash] else place.flatMap fun name => Path.slash :: name
  match ← fs.resolve true p with
  | .found place _ => return shown place
  | .absent dir name => return shown (dir ++ [name])

/-- What stands at a path, without following a link at its end. -/
def entry? (fs : System) (p : Path) : Except Error Node := do
  match ← fs.resolve false p with
  | .found _ node => return node
  | .absent .. => throw .noEntry

/-- Puts a new file in the place of what is under a name, with the same permissions. -/
def supplant (fs : System) (p : Path) (contents : Bytes) : System :=
  match fs.resolve false p with
  | .ok (.found place node) =>
    let old := ((fs.node? p).toOption.getD node).traits
    let t : Traits := { mode := old.mode, changed := fs.now, owner := old.owner, group := old.group }
    { fs with root := fs.root.modify (fun _ => .file t contents) place }
  | _ => fs

/-- Changes the traits of what a path leads to, without following a link at its end if so wished. -/
def retrait (fs : System) (follow : Bool) (p : Path) (change : Traits → Traits) :
    Except Error System := do
  match ← fs.resolve follow p with
  | .absent .. => throw .noEntry
  | .found place node => return fs.replace place node (node.withTraits (change node.traits))

/-- Gives a file another name; there must be nothing in its place. -/
def addName (fs : System) (node : Node) (place : Place) (p : Path) : Except Error System := do
  match ← fs.resolve false p with
  | .found .. => throw .alreadyExists
  | .absent dir name =>
    let number := node.traits.number.getD (fs.root.numbers.foldl max 0 + 1)
    let node := node.withTraits { node.traits with number := some number }
    return { fs with root := fs.root.modify (fun _ => node) place }.insert dir name node

/-- How many names a node has. A directory has one in itself, and one in each directory in it. -/
def nameCount (fs : System) (node : Node) : Nat :=
  match node, node.traits.number with
  | .dir _ entries, _ => 2 + (entries.filter (·.2.isDir)).length
  | _, some number => fs.root.numbers.count number
  | _, none => 1

end Scratchpad.Files.System
