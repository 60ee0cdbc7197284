import Scratchpad.Shell.Finding.Request
import Scratchpad.Shell.Runner.Timing

/-!
# Searches for files

A search goes through a tree, each directory before or after what is in it, and asks its question about
every file. Other programs are run by a shell; those that take many files at once run when all are known,
or when they have as many as there is room for.
-/

namespace Scratchpad.Shell.Finding

open Files (Node Path)

/-- What runs other programs in a state. -/
structure Runs where
  run : State → List String → State

/-- The files that are gathered for an errand in a directory, the last one first. -/
structure Gathered where
  errand : Errand
  dir : String
  files : List String

/-- A search on its way. -/
structure Course where
  host : State
  failed : Bool
  ended : Bool
  pruned : Bool
  gathered : List Gathered

abbrev Going := StateM Course

def sceneOf (host : State) : Scene where
  args := []
  input := host.input
  files := host.filesNow
  environment := host.environment.map fun (name, value) => (ByteText.shown name, ByteText.shown value)

def complain (text : String) : Going Unit :=
  modify fun c => { c with host := c.host.write 2 (Bytes.ofString ("find: " ++ text ++ "\n")), failed := true }

/-- Writes somewhere. -/
def send (o : Outlet) (bytes : Bytes) : Going Unit :=
  modify fun c => { c with host := match o with
    | .out => c.host.write 1 bytes
    | .err => c.host.write 2 bytes
    | .file name =>
      let p := Path.ofString name
      let path := if p.isAbsolute then p else
        c.host.files.cwd.flatMap (fun part => Path.slash :: part) ++ Path.slash :: p
      c.host.emit (.file path) bytes }

/-- What is at a path, as links are followed. -/
def look (f : Following) (depth : Nat) (files : Files.System) (path : String) : Except Files.Error Node :=
  let p := Path.ofString path
  if f = .all || (f = .named && depth = 0) then
    (files.node? p).orElseLazy fun _ => files.entry? p
  else files.entry? p

/-! ## Errands -/

/-- Runs a program in a directory; the answer is whether all went well. -/
def launch (r : Runs) (dir : Option String) (silent : Bool) (words : List String) : Going Bool := do
  let before := (← get).host
  let cwd := match dir.map fun name => before.files.resolve true (Path.ofString name) with
    | some (.ok (.found place _)) => place
    | _ => before.files.cwd
  let within := { before with files := { before.files with cwd } }
  let within := if silent then { within with input := .empty } else within
  let after := r.run within words
  let host := { after with
    vars := before.vars
    exported := before.exported
    files := before.files.seenAs after.files
    input := if silent then before.input else after.input }
  match host.fate with
  | .signalled n =>
    let text := "find: " ++ Quoting.always (words.headD "") ++ " terminated by signal " ++ n.repr ++ "\n"
    modify fun c => { c with host := { host with fate := .running }.write 2 (Bytes.ofString text) }
    return false
  | _ =>
    modify fun c => { c with host, ended := c.ended || !host.isRunning }
    return host.status = 0

/-- The words of a command with a file in place of the mark. -/
def marked (words : List String) (file : String) : List String :=
  words.map fun word => file.intercalate (word.splitOn mark)

/-- Runs an errand for all files that were gathered for it. -/
def runGathered (r : Runs) (g : Gathered) : Going Unit := do
  let words := g.errand.words.filter (· ≠ mark) ++ g.files.reverse
  let isFine ← launch r (if g.errand.inPlace then some g.dir else none) false words
  unless isFine do modify ({ · with failed := true })

/-- How many bytes there is room for in the arguments of a program. -/
def room : Nat := 120000

/-- Runs what was gathered in other directories than the one at hand, and what there is no room for. -/
def settleGathered (r : Runs) (e : Errand) (dir : String) : Going Unit := do
  let isDue (g : Gathered) : Bool :=
    g.errand.number = e.number &&
      (g.dir ≠ dir || room < (g.files.map fun f => f.utf8ByteSize + 1).foldl (· + ·) 0)
  let due := (← get).gathered.filter isDue
  modify fun c => { c with gathered := c.gathered.filter fun g => !isDue g }
  for g in due do runGathered r g

def gather (r : Runs) (e : Errand) (dir file : String) : Going Unit := do
  settleGathered r e dir
  modify fun c =>
    if c.gathered.any fun g => g.errand.number = e.number then
      { c with gathered := c.gathered.map fun g =>
        if g.errand.number = e.number then { g with files := file :: g.files } else g }
    else { c with gathered := c.gathered ++ [⟨e, dir, [file]⟩] }

/-- Asks whether a program is to be run. -/
def agreed (e : Errand) (f : Sight) : Going Bool := do
  let question := "< " ++ e.words.headD "" ++ " ... " ++ f.path ++ " > ? "
  modify fun c => { c with host := c.host.write 2 (Bytes.ofString question) }
  let host := (← get).host
  match host.input.splitAtLine 1 with
  | some (line, rest) =>
    modify fun c => { c with host := { c.host with input := rest } }
    return line.head?.any fun b => b = 0x59 || b = 0x79
  | none => return false

def runErrand (r : Runs) (e : Errand) (f : Sight) : Going Bool := do
  let dir := (f.parted.1).getD "."
  let dir := if dir = "" then "/" else dir
  let file := if e.inPlace then "./" ++ f.name else f.path
  let dir := if e.inPlace then dir else ""
  if e.together then
    gather r e dir file
    return true
  else
    let goesOn ← if e.asks then agreed e f else pure true
    if !goesOn then return false
    else launch r (if e.inPlace then some dir else none) e.asks (marked e.words file)

/-! ## Questions -/

def lowered (text : String) : String :=
  String.ofList (text.toList.map Char.toLower)

/-- Looks at something, without doing anything. -/
def holds (s : Search) (files : Files.System) (f : Sight) : Step → Bool
  | .always b => b
  | .fits aspect anyCase wildcards =>
    let text : Option String := match aspect with
      | .name => some f.name
      | .path => some f.path
      | .target =>
        match f.node with
        | .link _ target => some (Tools.textOf target)
        | _ => none
    text.any fun text =>
      if anyCase then Pattern.fits (lowered wildcards) (lowered text) else Pattern.fits wildcards text
  | .matching p => p.matchesAll (Bytes.ofString f.path)
  | .kind letters other =>
    let node := if other then
        (if s.following = .all then files.entry? (Path.ofString f.path)
          else files.node? (Path.ofString f.path)).toOption.getD f.node
      else f.node
    letters.contains (letterOf node)
  | .size b unit => b.admits ((Tools.sizeOf f.node + unit - 1) / unit)
  | .empty =>
    match f.node with
    | .file _ contents => contents.isEmpty
    | .dir _ entries => entries.isEmpty
    | _ => false
  | .mode d file dir => d.admits (if f.node.isDir then dir else file) f.node.traits.mode
  | .names b => b.admits (files.nameCount f.node)
  | .number b => b.admits (Tools.identityOf ⟨f.name, f.path, f.node⟩)
  | .owner b => b.admits f.node.traits.owner
  | .group b => b.admits f.node.traits.group
  | .within c after upTo =>
    let time := c.of f.node
    after.all (· < time) && upTo.all (time ≤ ·)
  | .usedAfter b =>
    let days := (Clock.used.of f.node - Clock.changed.of f.node) / day
    0 ≤ days && b.admits days.toNat
  | .allowed bits =>
    match files.node? (Path.ofString f.path) with
    | .ok node => bits ≠ 1 || node.isDir || node.traits.mode &&& 0o111 ≠ 0
    | .error _ => false
  | .same place =>
    match files.resolve (s.following = .all) (Path.ofString f.path) with
    | .ok (.found found node) =>
      found = place || (node.traits.number.isSome &&
        (files.root.get? place).any fun other => other.traits.number = node.traits.number)
    | _ => false
  | _ => false

/-- Takes a step of a question; nothing happens when the search is over. -/
def take (r : Runs) (s : Search) (f : Sight) (x : Step) : Going Bool := do
  let c ← get
  if c.ended then return false
  match x with
  | .print o ending =>
    send o (Bytes.ofString f.path ++ [ending])
    return true
  | .printForm o form =>
    send o (filled (sceneOf c.host) f form)
    return true
  | .describe o =>
    send o (Bytes.ofString (described (sceneOf c.host) f))
    return true
  | .prune =>
    set { c with pruned := true }
    return true
  | .quit =>
    set { c with ended := true }
    return true
  | .delete =>
    if f.path = "." then return true
    else
      match c.host.filesNow.remove f.node.isDir false (Path.ofString f.path) with
      | .ok files =>
        set { c with host := { c.host with files := c.host.files.seenAs files } }
        return true
      | .error e =>
        complain ("cannot delete " ++ Quoting.always f.path ++ ": " ++ e.reason)
        return false
  | .run e => runErrand r e f
  | x => return holds s c.host.filesNow f x

/-- Asks a question about a file. -/
def ask (r : Runs) (s : Search) (f : Sight) : Question → Going Bool
  | .step x => take r s f x
  | .not q => do return !(← ask r s f q)
  | .both a b => do if ← ask r s f a then ask r s f b else return false
  | .either a b => do if ← ask r s f a then return true else ask r s f b
  | .after a b => do
    let _ ← ask r s f a
    ask r s f b

/-! ## Trees -/

/-- The deepest tree. -/
def deepest : Nat := 500

/-- Goes through what is at a path; `above` are the places of the directories that it is in, with their
paths. -/
def visit (r : Runs) (s : Search) : Nat → List (Files.Place × String) → Sight → Going Unit
  | 0, _, _ => pure ()
  | fuel + 1, above, f => do
    let question : Going Unit := do
      if s.least ≤ f.depth then
        let _ ← ask r s f s.question
    modify ({ · with pruned := false })
    unless s.insideFirst do question
    let c ← get
    let enters := f.node.isDir && !(c.pruned && !s.insideFirst) && s.most.all (f.depth < ·)
    if enters && !c.ended then
      let p := Path.ofString f.path
      match c.host.files.resolve (s.following ≠ .none) p with
      | .error e => complain (Quoting.always f.path ++ ": " ++ e.reason)
      | .ok (.absent ..) => complain (Quoting.always f.path ++ ": " ++ Files.Error.noEntry.reason)
      | .ok (.found place node) =>
        let above := (place, f.path) :: above
        let front := if f.path.endsWith "/" then f.path else f.path ++ "/"
        for (name, _) in node.entries do
          let c ← get
          unless c.ended do
            let path := front ++ Tools.textOf name
            match look s.following (f.depth + 1) c.host.files path with
            | .error _ => pure ()
            | .ok node =>
              let own : Option Files.Place :=
                match c.host.files.resolve true (Path.ofString path) with
                | .ok (.found place _) => if node.isDir && s.following = .all then some place else none
                | _ => none
              match own.bind fun place => above.lookup place with
              | some other =>
                complain ("File system loop detected; " ++ Quoting.always path ++
                  " is part of the same file system loop as " ++ Quoting.always other ++ ".")
              | none => visit r s fuel above { path, node, start := f.start, depth := f.depth + 1 }
    if s.insideFirst && !(← get).ended then question

/-- Makes or empties the files that a search writes to. -/
def openOutlets (host : State) (outlets : List Outlet) : Except String State :=
  outlets.foldlM (fun (host : State) o =>
    match o with
    | .file name =>
      match host.filesNow.write (Path.ofString name) [] with
      | .ok files => .ok { host with files }
      | .error e => .error ("find: " ++ Quoting.always name ++ ": " ++ e.reason)
    | _ => .ok host) host

/-- All of a search. -/
def whole (r : Runs) (s : Search) : Going Unit := do
  for start in s.starts do
    let c ← get
    unless c.ended do
      match look s.following 0 c.host.files start with
      | .error e => complain (Quoting.always start ++ ": " ++ e.reason)
      | .ok node => visit r s deepest [] { path := start, node, start, depth := 0 }
  for g in (← get).gathered do
    if (← get).host.isRunning then runGathered r g

/-- The tool, with a shell that runs other programs for it. -/
def run (r : Runs) (host : State) (args : List String) : State :=
  match Search.ofArgs { sceneOf host with args } with
  | .error text => host.fails text 1
  | .ok s =>
    match openOutlets host s.outlets with
    | .error text => host.fails text 1
    | .ok host =>
      let host := s.warnings.foldl (fun (host : State) text =>
        host.write 2 (Bytes.ofString (text ++ "\n"))) host
      let (_, c) := (whole r s).run ⟨host, false, false, false, []⟩
      if c.host.isRunning then c.host.withStatus (if c.failed then 1 else 0) else c.host

end Scratchpad.Shell.Finding
