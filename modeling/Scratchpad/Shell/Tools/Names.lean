import Scratchpad.Files.Removal
import Scratchpad.Shell.Tools.Basic

/-!
# Names

The tools that take paths apart, say where they lead, and name the machine and its user.
-/

namespace Scratchpad.Shell.Tools

open Deed (complaint ofWrites saying told)
open Files (Path)

/-- The text without some characters at its end, unless it is made of them. -/
def dropEnd (c : Char) (cs : List Char) : List Char :=
  let kept := (cs.reverse.dropWhile (· = c)).reverse
  if kept = [] then cs.take 1 else kept

/-- The last name of a path, without an ending if it has that and more. -/
def lastName (path ending : String) : String :=
  let cs := dropEnd '/' path.toList
  let name := if cs = ['/'] then cs else (cs.reverse.takeWhile (· ≠ '/')).reverse
  let ending := ending.toList
  String.ofList (if ending.isSuffixOf name && ending ≠ name then
    name.take (name.length - ending.length) else name)

/-- A path without its last name. -/
def withoutLast (path : String) : String :=
  let cs := dropEnd '/' path.toList
  let front := (cs.reverse.dropWhile (· ≠ '/')).reverse
  String.ofList (if front = [] then ['.'] else dropEnd '/' front)

def basename (s : Scene) : Deed :=
  readingFirst s "basename" 1 [.flag 'a' "multiple", .valued 's' "suffix", .flag 'z' "zero"]
    fun found operands =>
    let ending := if found.has "zero" then "\x00" else "\n"
    let many := found.has "multiple" || found.has "suffix"
    match operands with
    | [] => missingOperand s "basename"
    | _ :: _ :: extra :: _ =>
      if many then
        saying s (String.join (operands.map fun path =>
          lastName path ((found.value? "suffix").getD "") ++ ending))
      else extraOperand s "basename" extra
    | path :: more =>
      if many then
        saying s (String.join (operands.map fun path =>
          lastName path ((found.value? "suffix").getD "") ++ ending))
      else saying s (lastName path (more.headD "") ++ ending)

def dirname (s : Scene) : Deed :=
  reading s "dirname" 1 [.flag 'z' "zero"] fun found operands =>
    let ending := if found.has "zero" then "\x00" else "\n"
    if operands.isEmpty then missingOperand s "dirname"
    else saying s (String.join (operands.map fun path => withoutLast path ++ ending))

/-- A path without dots, as far as can be told from it alone. -/
def cleaned (files : Files.System) (path : Path) : Path :=
  let start := if path.isAbsolute then [] else files.cwd
  let parts := ((Path.split path).filter fun part => part ≠ [] && part ≠ [Path.dot]).foldl
    (fun place part => if part = [Path.dot, Path.dot] then place.dropLast else place ++ [part]) start
  if parts = [] then [Path.slash] else parts.flatMap fun name => Path.slash :: name

/-- How much of a path must be there. -/
inductive Presence
  | whole
  | front
  | nothing
deriving DecidableEq

/-- The presence that options ask for. -/
def Presence.ofOptions (found : Options) : Presence :=
  if found.has "canonicalize-existing" then .whole
  else if found.has "canonicalize-missing" then .nothing
  else .front

/-- Where a path leads. -/
def destination (files : Files.System) (presence : Presence) (path : String) :
    Except Files.Error Path :=
  let p := Path.ofString path
  match files.resolve true p with
  | .ok (.absent ..) => if presence = .whole then .error .noEntry else files.canonical p
  | .ok (.found ..) => files.canonical p
  | .error e => if presence = .nothing then .ok (cleaned files p) else .error e

def readlink (s : Scene) : Deed :=
  reading s "readlink" 1 [.flag 'f' "canonicalize", .flag 'e' "canonicalize-existing",
    .flag 'm' "canonicalize-missing", .flag 'n' "no-newline", .flag 'q' "quiet", .flag 's' "silent",
    .flag 'v' "verbose", .flag 'z' "zero"] fun found operands =>
    let ending : Bytes := if found.has "no-newline" && operands.length = 1 then []
      else if found.has "zero" then [0] else [newline]
    let one (path : String) : Outlet × Bytes :=
      let shown : Except Files.Error Bytes :=
        if ["canonicalize", "canonicalize-existing", "canonicalize-missing"].any found.has then
          destination s.files (.ofOptions found) path
        else
          match s.files.entry? (Path.ofString path) with
          | .ok (.link _ target) => .ok target
          | .ok _ => .error .invalid
          | .error e => .error e
      match shown with
      | .ok bytes => (.out, bytes ++ ending)
      | .error e =>
        (.err, if found.has "verbose" then
          Bytes.ofString ("readlink: " ++ plainly path e ++ "\n") else [])
    if operands.isEmpty then missingOperand s "readlink"
    else
      let writes := operands.map one
      ofWrites s writes (if writes.any (·.1 = .err) then 1 else 0)

/-- A path as it is seen from another place. -/
def relativeTo (base path : Path) : Path :=
  let parts (p : Path) : List Path := (Path.split p).filter (· ≠ [])
  let (here, there) := (parts base, parts path)
  let shared := ((here.zip there).takeWhile fun (a, b) => a = b).length
  let up := List.replicate (here.length - shared) [Path.dot, Path.dot]
  let way := up ++ there.drop shared
  if way = [] then [Path.dot] else [Path.slash].intercalate way

/-- Is one place another or below it? -/
def isBelow (base path : Path) : Bool :=
  base = [Path.slash] || base = path || (base ++ [Path.slash]).isPrefixOf path

def realpath (s : Scene) : Deed :=
  reading s "realpath" 1 [.flag 'e' "canonicalize-existing", .flag 'm' "canonicalize-missing",
    .flag 'L' "logical", .flag 'P' "physical", .flag 'q' "quiet", .flag 's' "strip",
    .flag 'z' "zero", .longValued "relative-to", .longValued "relative-base"] fun found operands =>
    let ending : Bytes := if found.has "zero" then [0] else [newline]
    let resolved (path : String) : Except Files.Error Path :=
      if found.has "strip" then .ok (cleaned s.files (Path.ofString path))
      else destination s.files (.ofOptions found) path
    let baseOf (name : String) : Option Path :=
      (found.value? name).bind fun text => (resolved text).toOption
    let shown (path : Path) : Path :=
      match baseOf "relative-to", baseOf "relative-base" with
      | none, none => path
      | some base, none => relativeTo base path
      | none, some limit => if isBelow limit path then relativeTo limit path else path
      | some base, some limit =>
        if isBelow limit path && isBelow limit base then relativeTo base path else path
    if operands.isEmpty then missingOperand s "realpath"
    else
      let writes := operands.map fun path =>
        match resolved path with
        | .ok place => (Outlet.out, shown place ++ ending)
        | .error e =>
          (.err, if found.has "quiet" then [] else
            Bytes.ofString ("realpath: " ++ plainly path e ++ "\n"))
      ofWrites s writes (if writes.any (·.1 = .err) then 1 else 0)

/-- Where programs are looked for. -/
def searched : List String :=
  ["/usr/local/sbin", "/usr/local/bin", "/usr/sbin", "/usr/bin", "/sbin", "/bin"]

/-- Says where programs are found. -/
def which (s : Scene) : Deed :=
  let operands := s.args.filter fun arg => !arg.startsWith "-"
  let places (name : String) : List String :=
    if name.toList.contains '/' then
      (if s.files.isFile (Path.ofString name) then [name] else [])
    else
      (searched.map fun dir => dir ++ "/" ++ name).filter fun path =>
        s.files.isFile (Path.ofString path)
  let found := operands.map fun name =>
    if s.args.contains "-a" then places name else (places name).take 1
  ofWrites s [(.out, Bytes.ofString (String.join (found.flatten.map (· ++ "\n"))))]
    (if found.isEmpty || found.any List.isEmpty then 1 else 0)

/-- Shows the working directory. -/
def pwd (s : Scene) : Deed :=
  let place := s.files.cwd.flatMap fun name => Path.slash :: name
  ofWrites s [(.out, (if place = [] then [Path.slash] else place) ++ [newline])] 0

/-! ## The machine and its user -/

def whoami (s : Scene) : Deed := saying s "root\n"

/-- Says who runs it: the user of all rights. -/
def idOf (s : Scene) : Deed :=
  reading s "id" 1 [.flag 'u' "user", .flag 'g' "group", .flag 'G' "groups", .flag 'n' "name",
    .flag 'r' "real", .flag 'a' "a", .flag 'z' "zero"] fun found operands =>
    match operands.find? fun user => user ≠ "root" && user ≠ "0" with
    | some user => complaint s ("id: " ++ Quoting.always user ++ ": no such user") 1
    | none =>
    let asked := ["user", "group", "groups"].any found.has
    if asked then saying s (if found.has "name" then "root\n" else "0\n")
    else if found.has "name" || found.has "real" then
      complaint s "id: cannot print only names or real IDs in default format" 1
    else saying s "uid=0(root) gid=0(root) groups=0(root)\n"

def groups (s : Scene) : Deed := saying s "root\n"

/-- Names the system. -/
def uname (s : Scene) : Deed :=
  reading s "uname" 1 [.flag 'a' "all", .flag 's' "kernel-name", .flag 'n' "nodename",
    .flag 'r' "kernel-release", .flag 'v' "kernel-version", .flag 'm' "machine",
    .flag 'p' "processor", .flag 'i' "hardware-platform", .flag 'o' "operating-system"]
    fun found operands =>
    let facts := [("kernel-name", "Linux"), ("nodename", "localhost"), ("kernel-release", "6.1.0"),
      ("kernel-version", "#1 SMP"), ("machine", "x86_64"), ("processor", "unknown"),
      ("hardware-platform", "unknown"), ("operating-system", "GNU/Linux")]
    match operands with
    | extra :: _ => extraOperand s "uname" extra
    | [] =>
      let shown :=
        if found.has "all" then facts.filter (·.2 ≠ "unknown")
        else if found.isEmpty then facts.take 1
        else facts.filter fun (name, _) => found.has name
      saying s (" ".intercalate (shown.map (·.2)) ++ "\n")

def arch (s : Scene) : Deed := saying s "x86_64\n"

/-- Says that there is no terminal. -/
def tty (s : Scene) : Deed :=
  let quiet := s.args.any fun arg => arg = "-s" || arg = "--silent" || arg = "--quiet"
  ofWrites s [(.out, if quiet then [] else Bytes.ofString "not a tty\n")] 1

end Scratchpad.Shell.Tools
