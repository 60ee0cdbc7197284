import Scratchpad.Files.Tree

/-!
# File systems

A file system is a tree with a working directory. Paths are walked as POSIX asks: links are followed
up to a limit, two dots lead to the parent, and every part but the last must be a directory. The
operations are those that settings and examples need; each gives the new file system or the error
that the operating system would report.
-/

namespace Scratchpad.Files

inductive Error
  | noEntry
  | badFormat
  | permission
  | busy
  | alreadyExists
  | notDirectory
  | isDirectory
  | nameTooLong
  | invalid
  | notEmpty
  | linkLoop
  | nulInPath
  | notText
deriving DecidableEq, Repr

/-- What the operating system says of an error. -/
def Error.reason : Error → String
  | .badFormat => "Exec format error"
  | .noEntry => "No such file or directory"
  | .permission => "Permission denied"
  | .busy => "Device or resource busy"
  | .alreadyExists => "File exists"
  | .notDirectory => "Not a directory"
  | .isDirectory => "Is a directory"
  | .nameTooLong => "File name too long"
  | .invalid => "Invalid argument"
  | .notEmpty => "Directory not empty"
  | .linkLoop => "Too many levels of symbolic links"
  | .nulInPath => "file name contained an unexpected NUL byte"
  | .notText => "stream did not contain valid UTF-8"

/-- The number that the operating system has for an error; the last two errors are not its own. -/
def Error.number? : Error → Option Nat
  | .noEntry => some 2
  | .badFormat => some 8
  | .permission => some 13
  | .busy => some 16
  | .alreadyExists => some 17
  | .notDirectory => some 20
  | .isDirectory => some 21
  | .nameTooLong => some 36
  | .invalid => some 22
  | .notEmpty => some 39
  | .linkLoop => some 40
  | .nulInPath | .notText => none

def Error.text (e : Error) : String :=
  match e.number? with
  | some n => e.reason ++ " (os error " ++ n.repr ++ ")"
  | none => e.reason

/-- A tree with a working directory, the time that it is, in nanoseconds since the beginning of 1970, and
the permissions that new entries are not given. -/
structure System where
  root : Node
  cwd : Place
  now : Int
  mask : Nat

/-- Where a path leads: to a node, or to a name that a directory does not have. -/
inductive Target
  | found (place : Place) (node : Node)
  | absent (dir : Place) (name : Name)

namespace System

/-- How many links may be followed on the way. -/
def linkLimit : Nat := 40

/-- The longest name of an entry. -/
def nameLimit : Nat := 255

/-- The longest path, with the byte that ends it. -/
def pathLimit : Nat := 4096

/-- The tree of another file system in its latest state, as it is seen from this one's working
directory. -/
def seenAs (fs latest : System) : System :=
  { latest with cwd := fs.cwd, mask := fs.mask }

def startOf (fs : System) (p : Path) : Place :=
  if p.isAbsolute then [] else fs.cwd

/-- Walks the parts of a path from a place. With `follow` a link at the end is followed too. With
`making` a file is to be made at the end if nothing is there, which cannot be done under a name that
asks for a directory. -/
def walk (root : Node) (follow making : Bool) (links : Nat) (here : Place) :
    List Name → Except Error Target
  | [] =>
    match root.get? here with
    | some node => .ok (.found here node)
    | none => .error .noEntry
  | part :: rest =>
    match root.get? here with
    | some (.dir _ entries) =>
      if part = [] || part = [Path.dot] then walk root follow making links here rest
      else if part = [Path.dot, Path.dot] then walk root follow making links here.dropLast rest
      else if nameLimit < part.length then .error .nameTooLong
      else
        match entries.lookup part with
        | none =>
          if rest.isEmpty then .ok (.absent here part)
          else .error (if making && rest = [[]] then .isDirectory else .noEntry)
        | some (.link traits target) =>
          if rest.isEmpty && !follow then .ok (.found (here ++ [part]) (.link traits target))
          else
            match links with
            | 0 => .error .linkLoop
            | links + 1 =>
              let base := if Path.isAbsolute target then [] else here
              let onward := Path.segments target
              walk root follow making links base
                ((if rest.isEmpty then onward else onward.filter (· ≠ [])) ++ rest)
        | some _ => walk root follow making links (here ++ [part]) rest
    | some _ => .error .notDirectory
    | none => .error .noEntry
termination_by parts => (links, parts.length)

/-- Where a path leads to, or may be made to lead to. -/
def locate (fs : System) (follow making : Bool) (p : Path) : Except Error Target :=
  if p.contains 0 then .error .nulInPath
  else if p = [] then .error .noEntry
  else if pathLimit ≤ p.length then .error .nameTooLong
  else walk fs.root follow making linkLimit (fs.startOf p) (Path.segments p)

/-- Where a path leads to. -/
def resolve (fs : System) (follow : Bool) (p : Path) : Except Error Target :=
  fs.locate follow false p

/-- The node that a path leads to, through links. -/
def node? (fs : System) (p : Path) : Except Error Node := do
  match ← fs.resolve true p with
  | .found _ node => return node
  | .absent .. => throw .noEntry

def pathExists (fs : System) (p : Path) : Bool :=
  match fs.node? p with
  | .ok _ => true
  | .error _ => false

def isDir (fs : System) (p : Path) : Bool :=
  match fs.node? p with
  | .ok (.dir ..) => true
  | _ => false

def isFile (fs : System) (p : Path) : Bool :=
  match fs.node? p with
  | .ok (.file ..) => true
  | _ => false

def read (fs : System) (p : Path) : Except Error Bytes := do
  match ← fs.node? p with
  | .file _ contents | .pipe _ contents => return contents
  | .device _ | .link .. => return []
  | .dir .. => throw .isDirectory

def readText (fs : System) (p : Path) : Except Error String := do
  match (← fs.read p).text? with
  | some s => return s
  | none => throw .notText

/-- The names in a directory, in the order in which it is listed. -/
def list (fs : System) (p : Path) : Except Error (List Name) := do
  match ← fs.node? p with
  | .dir _ entries => return entries.map (·.1)
  | _ => throw .notDirectory

/-- The traits of an entry that is made now and would have some permissions. -/
def fresh (fs : System) (mode : Nat) : Traits :=
  { mode := mode - (mode &&& fs.mask), changed := fs.now }

/-- Puts an entry into a directory. -/
def insert (fs : System) (dir : Place) (name : Name) (node : Node) : System :=
  { fs with root := fs.root.insert fs.now dir name node }

/-- Takes the entry at a place away. -/
def erase (fs : System) (place : Place) : System :=
  { fs with root := fs.root.erase fs.now place.dropLast (place.getLast?.getD []) }

/-- Puts a node in the place of another one, and wherever else that stands. -/
def replace (fs : System) (place : Place) (before after : Node) : System :=
  { fs with
    root := match before.traits.number with
      | some number => Node.renew number after fs.root
      | none => fs.root.modify (fun _ => after) place }

/-- Gives a file contents that depend on those that it had, making it if there is none. What is written
to a device is lost. -/
def writeWith (fs : System) (p : Path) (change : Bytes → Bytes) : Except Error System := do
  match ← fs.locate true true p with
  | .found place (.file t before) =>
    return fs.replace place (.file t before) (.file { t with changed := fs.now } (change before))
  | .found place (.pipe t before) =>
    return fs.replace place (.pipe t before) (.pipe { t with changed := fs.now } (change before))
  | .found _ (.device _) => return fs
  | .found .. => throw .isDirectory
  | .absent dir name => return fs.insert dir name (.file (fs.fresh 0o666) (change []))

/-- Gives a file its contents, making it if there is none. -/
def write (fs : System) (p : Path) (contents : Bytes) : Except Error System :=
  fs.writeWith p fun _ => contents

/-- Makes a directory whose parent exists. -/
def makeDir (fs : System) (p : Path) : Except Error System := do
  match ← fs.resolve false (Path.dropSlashes p) with
  | .found .. => throw .alreadyExists
  | .absent dir name => return fs.insert dir name (.dir (fs.fresh 0o777) [])

/-- Makes a directory and those above it that are missing. A directory that is there already is no
error; `fuel` bounds how many are above it. -/
def makeDirsWithin : Nat → System → Path → System × Option Error
  | fuel, fs, p =>
    if p = [] then (fs, none)
    else
      match fs.makeDir p with
      | .ok fs => (fs, none)
      | .error .noEntry =>
        match fuel, p.parent? with
        | fuel + 1, some parent =>
          match makeDirsWithin fuel fs parent with
          | (fs, some error) => (fs, some error)
          | (fs, none) =>
            match fs.makeDir p with
            | .ok fs => (fs, none)
            | .error error => (fs, if fs.isDir p then none else some error)
        | _, _ => (fs, some .noEntry)
      | .error error => (fs, if fs.isDir p then none else some error)

/-- What was made stays when a later step fails. -/
def makeDirs (fs : System) (p : Path) : System × Option Error :=
  makeDirsWithin p.length fs p

/-- Takes the entry at a place away and puts the node elsewhere. -/
def move (fs : System) (source : Place) (node : Node) (dir : Place) (name : Name) : System :=
  (fs.erase source).insert dir name node

/-- Moves a file, or the link in its place, to another path, over a file that is there. -/
def rename (fs : System) (source target : Path) : Except Error System := do
  match ← fs.resolve false source with
  | .absent .. => throw .noEntry
  | .found place node =>
    if Path.endsInDots target then
      let _ ← fs.resolve true target
      throw .busy
    else
      match ← fs.resolve false (Path.dropSlashes target) with
      | .absent dir name =>
        if target.endsInSlash then throw .notDirectory else return fs.move place node dir name
      | .found other there =>
        if target.endsInSlash then throw .notDirectory
        else if there.isDir then throw .isDirectory
        else if other = place then return fs
        else return fs.move place node other.dropLast (other.getLast?.getD [])

end System
end Scratchpad.Files
