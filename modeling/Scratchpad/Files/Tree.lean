import Scratchpad.Files.Path

/-!
# File trees

A tree holds files, directories, symbolic links, pipes that have names, and devices. Of each it is known
who may do what with it and when it was changed. A file may stand in several places: its entries carry
the same number then, and what changes one of them changes all. A place in a tree is the list of names
that leads there from the root. The order of a directory's entries is the order in which it is listed;
nothing else depends on it.
-/

namespace Scratchpad.Files

/-- What is known of an entry beside what it holds: its permissions, as the number whose octal digits
stand for those of the owner, the group and the others, when it was changed, in nanoseconds since the
beginning of 1970, when it was used if that is known apart from it, the number of a file that has several
names, and whose it is. -/
structure Traits where
  mode : Nat
  changed : Int
  used : Option Int := none
  number : Option Nat := none
  owner : Nat := 0
  group : Nat := 0
deriving DecidableEq, Repr

inductive Node
  | file (traits : Traits) (contents : Bytes)
  | dir (traits : Traits) (entries : List (Name × Node))
  | link (traits : Traits) (target : Path)
  | pipe (traits : Traits) (contents : Bytes)
  | device (traits : Traits)

/-- A place in a tree, by the names from the root. -/
abbrev Place := List Name

namespace Node

def traits : Node → Traits
  | .file t _ | .dir t _ | .link t _ | .pipe t _ | .device t => t

/-- The same node with other traits. -/
def withTraits (t : Traits) : Node → Node
  | .file _ contents => .file t contents
  | .dir _ entries => .dir t entries
  | .link _ target => .link t target
  | .pipe _ contents => .pipe t contents
  | .device _ => .device t

def entries : Node → List (Name × Node)
  | .dir _ entries => entries
  | _ => []

def isDir : Node → Bool
  | .dir .. => true
  | _ => false

def isLink : Node → Bool
  | .link .. => true
  | _ => false

/-- Sets an entry in its place, or at the end. -/
def put (name : Name) (node : Node) : List (Name × Node) → List (Name × Node)
  | [] => [(name, node)]
  | (n, m) :: rest => if n = name then (n, node) :: rest else (n, m) :: put name node rest

def get? : Node → Place → Option Node
  | n, [] => some n
  | .dir _ entries, name :: rest => do get? (← entries.lookup name) rest
  | _, _ :: _ => none

/-- Changes the node at a place, if there is one. -/
def modify (f : Node → Node) : Node → Place → Node
  | n, [] => f n
  | .dir t entries, name :: rest =>
    .dir t (entries.map fun e => if e.1 = name then (e.1, modify f e.2 rest) else e)
  | n, _ :: _ => n

/-- Puts a node into the directory at a place, which is changed at some time by that. -/
def insert (root : Node) (now : Int) (dir : Place) (name : Name) (node : Node) : Node :=
  root.modify (fun
    | .dir t entries => .dir { t with changed := now } (put name node entries)
    | n => n) dir

/-- Takes an entry out of the directory at a place. -/
def erase (root : Node) (now : Int) (dir : Place) (name : Name) : Node :=
  root.modify (fun
    | .dir t entries => .dir { t with changed := now } (entries.filter (·.1 ≠ name))
    | n => n) dir

mutual

/-- Puts a node wherever the file with a number stands. -/
def renew (number : Nat) (node : Node) : Node → Node
  | .dir t entries => .dir t (renewAll number node entries)
  | n => if n.traits.number = some number then node else n

def renewAll (number : Nat) (node : Node) : List (Name × Node) → List (Name × Node)
  | [] => []
  | (name, n) :: rest => (name, renew number node n) :: renewAll number node rest

end

mutual

/-- The numbers of the files that have several names, once for each place where they stand. -/
def numbers : Node → List Nat
  | .dir _ entries => numbersIn entries
  | n => n.traits.number.toList

def numbersIn : List (Name × Node) → List Nat
  | [] => []
  | (_, n) :: rest => numbers n ++ numbersIn rest

end

end Node
end Scratchpad.Files
