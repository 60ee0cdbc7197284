import Scratchpad.Catalog
import Scratchpad.Event
import Scratchpad.Files.System

/-!
# The example library

The server's catalog comes from a directory: one entry per regular file whose name without extension
is text and does not begin with a dot, in the byte order of these names. A directory that does not
exist gives no entries, and says so in the log.
-/

namespace Scratchpad.Library

open Files (Name Path System)

structure Unreadable where
  path : Path
  error : Files.Error
deriving DecidableEq, Repr

def Unreadable.causes (u : Unreadable) : List String :=
  ["read " ++ u.path.display, u.error.text]

/-- The entry name of a file, if the file is to have one. -/
def entryName? (name : Name) : Option String := do
  let stem ← Bytes.text? (Path.stemOf name)
  if stem.startsWith "." then none else some stem

/-- The entry of one name in a directory, if the name is eligible. -/
def readEntry (fs : System) (dir : Path) (name : Name) : Except Unreadable (Option Entry) :=
  let path := dir.join name
  if fs.isFile path then
    match entryName? name with
    | none => .ok none
    | some title =>
      match fs.readText path with
      | .ok value => .ok (some ⟨title, value⟩)
      | .error e => .error ⟨path, e⟩
  else .ok none

/-- Names in the order of their code points, which is that of their bytes. -/
def byName (a b : Entry) : Bool :=
  a.name ≤ b.name

def load (fs : System) (dir : Path) : Except Unreadable (List Entry) × List Event :=
  if fs.pathExists dir then
    match fs.list dir with
    | .error e => (.error ⟨dir, e⟩, [])
    | .ok names =>
      ((names.mapM (readEntry fs dir)).map fun found => (found.filterMap id).mergeSort byName, [])
  else (.ok [], [.examplesMissing dir.display])

end Scratchpad.Library
