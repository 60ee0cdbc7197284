import Scratchpad.Shell.Toolbox

/-!
# Programs

The programs of a machine are its tools, its shells, and the runners, which run other programs. They
are files in one directory, which is where names are looked up.
-/

namespace Scratchpad.Shell

open Files (Path System)

/-- The shells among the programs. -/
def shellNames : List String := ["sh", "dash", "bash"]

/-- The programs that a shell has built in as well. -/
def doubledNames : List String := ["test", "["]

/-- The programs that run others, and the one that shows the variables that programs are given. -/
def runnerNames : List String :=
  ["env", "nice", "nohup", "timeout", "xargs", "setsid", "stdbuf", "awk", "mawk", "nawk", "printenv",
    "sed", "find"]

/-- What a command's name stands for among the files of a machine. A script names the program that
reads it, with an argument in front of its path, or leaves that to the shell. -/
inductive Program
  | tool (t : Tool)
  | shell (name : String)
  | doubled (name : String)
  | runner (name : String)
  | script (path : Path) (reader : Option (Path × Option Bytes))

namespace Program

/-- The names of all programs. -/
def names : List String :=
  shellNames ++ doubledNames ++ runnerNames ++ (Tools.table.map (·.1)).filter (!runnerNames.contains ·)

/-- What the file of a program begins with; its name comes behind. -/
def mark : Bytes := [0x7F, 0x45, 0x4C, 0x46]

/-- The file of a program. -/
def contentsOf (name : String) : Bytes :=
  mark ++ Bytes.ofString name

/-- The program that reads a script, with its argument, as the first line of the script names it. -/
def readerOf? (contents : Bytes) : Option (Path × Option Bytes) :=
  match contents with
  | 0x23 :: 0x21 :: rest =>
    let line := (rest.takeWhile (· ≠ newline)).dropWhile Tools.isBlank
    let line := (line.reverse.dropWhile Tools.isBlank).reverse
    let path := line.takeWhile fun b => !Tools.isBlank b
    let argument := (line.drop path.length).dropWhile Tools.isBlank
    if path = [] then none else some (path, if argument = [] then none else some argument)
  | _ => none

def named? (name : String) : Option Program :=
  if shellNames.contains name then some (.shell name)
  else if doubledNames.contains name then some (.doubled name)
  else if runnerNames.contains name then some (.runner name)
  else (Tools.find? name).map .tool

/-- Where a command is looked for. -/
def pathOf (name : String) : Path :=
  if name.toList.contains '/' then Path.ofString name
  else Path.join (Path.ofString "/usr/bin") (Path.ofString name)

/-- What a file holds that may be run, or why it may not. -/
def runnable (files : System) (path : Path) : Except Files.Error Bytes := do
  match ← files.resolve true path with
  | .absent .. => throw .noEntry
  | .found _ (.file traits contents) =>
    if traits.mode &&& 0o111 = 0 then throw .permission else return contents
  | .found .. => throw .permission

/-- The program in a file, or why there is none. -/
def inFile (files : System) (path : Path) : Except Files.Error Program := do
  let contents ← runnable files path
  if mark.isPrefixOf contents then
    match (Bytes.text? (contents.drop mark.length)).bind named? with
    | some p => return p
    | none => throw .badFormat
  else
    let reader := readerOf? contents
    if let some (reader, _) := reader then
      let _ ← runnable files reader
    return .script path reader

/-- The program behind a name or a path, or why there is none. -/
def find (files : System) (name : String) : Except Files.Error Program :=
  if name = "" then .error .noEntry else inFile files (pathOf name)

/-- The first of some files that is a program, with its path; without one, why not, which is that
nothing is there unless something is. -/
def firstIn (files : System) (error : Files.Error) : List String →
    Except Files.Error (Program × String)
  | [] => .error error
  | path :: rest =>
    match inFile files (Path.ofString path) with
    | .ok p => .ok (p, path)
    | .error e => firstIn files (if e = .permission then e else error) rest

/-- The program that a name stands for where the directories are listed in which programs are, with its
path. A name with a slash is a path itself. -/
def lookUp (files : System) (listed name : String) : Except Files.Error (Program × String) :=
  if name.toList.contains '/' then (inFile files (Path.ofString name)).map (·, name)
  else if name = "" then .error .noEntry
  else
    firstIn files .noEntry ((listed.splitOn ":").map fun dir =>
      if dir = "" then name else if dir.endsWith "/" then dir ++ name else dir ++ "/" ++ name)

end Program
end Scratchpad.Shell
