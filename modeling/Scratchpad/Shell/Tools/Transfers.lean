import Scratchpad.Shell.Tools.Filing

/-!
# Tools that copy, move and link files

A file goes to a path of its own or, under its name, into a directory. One that is in the way is replaced,
unless its tool was told to ask, to leave it alone, or to leave it alone if it is not older; a copy of it
may be kept.
-/

namespace Scratchpad.Shell.Tools

open Deed (complaint ofWrites told)
open Files (Node Path System Traits)

/-- Where a file goes: to a path of its own, or into a directory under its name. -/
def placeIn (files : System) (target name : String) : String :=
  if files.isDir (Path.ofString target) then
    target ++ (if target.endsWith "/" then "" else "/") ++ lastName name ""
  else target

/-- What `cp`, `mv` and `ln` need: sources and a target, which must be a directory if there are
several sources. -/
def sourcesAndTarget (s : Scene) (tool : String) (found : Options) (operands : List String)
    (go : List String → String → Deed) : Deed :=
  let isAlone := found.has "no-target-directory"
  match found.value? "target-directory", operands with
  | _, [] => complaint s (hint tool "missing file operand") 1
  | some dir, names =>
    if isAlone then
      complaint s (tool ++ ": cannot combine --target-directory (-t) and --no-target-directory (-T)") 1
    else if s.files.isDir (Path.ofString dir) then go names dir
    else
      let e : Files.Error := if s.files.pathExists (Path.ofString dir) then .notDirectory else .noEntry
      complaint s (tool ++ ": target directory " ++ Quoting.always dir ++ ": " ++ e.reason) 1
  | none, [name] =>
    complaint s (hint tool ("missing destination file operand after " ++ Quoting.always name)) 1
  | none, operands =>
    let target := operands.getLastD ""
    if isAlone then
      match operands with
      | _ :: _ :: extra :: _ => extraOperand s tool extra
      | _ => go operands.dropLast target
    else if 2 < operands.length && !s.files.isDir (Path.ofString target) then
      let isThere := s.files.pathExists (Path.ofString target)
      complaint s (tool ++ ": target " ++ Quoting.always target ++ ": " ++
        (if isThere then "Not a directory" else "No such file or directory")) 1
    else go operands.dropLast target

/-! ## Files in the way -/

/-- How copies of files that are replaced are named: with an ending, or with numbers, or with numbers if
some have them already. -/
inductive Keeping
  | ending
  | numbered
  | either
deriving DecidableEq

/-- What becomes of files in the way. -/
structure Replacing where
  asks : Bool
  never : Bool
  onlyOlder : Bool
  keeping : Option (Keeping × String)

def keepingKinds : List (List String × String) :=
  [(["none", "off"], "none"), (["simple", "never"], "ending"), (["existing", "nil"], "either"),
    (["numbered", "t"], "numbered")]

/-- The options about files in the way. -/
def replacingForms : List OptionForm :=
  [.flag 'b' "b", ⟨none, "backup", .perhaps⟩, .valued 'S' "suffix", .flag 'i' "interactive",
    .flag 'n' "no-clobber", .flag 'f' "force"]

/-- What options say of files in the way. -/
def Replacing.ofOptions (s : Scene) (tool : String) (found : Options) : Except String Replacing := do
  let asking := (found.filterMap fun (name, _) =>
    if ["interactive", "no-clobber", "force"].contains name then some name else none).getLastD ""
  let kinds := found.filterMap fun (name, value) =>
    if name = "backup" then some value
    else if name = "b" || name = "suffix" then some ""
    else none
  let suffix := ((found.value? "suffix").or (s.environment.lookup "SIMPLE_BACKUP_SUFFIX")).getD "~"
  let usual := ((s.environment.lookup "VERSION_CONTROL").getD "existing")
  let keeping ← match kinds with
    | [] => pure none
    | kinds =>
      let named := (kinds.filter (· ≠ "")).getLastD ""
      let text := if named = "" then usual else named
      match chosenAmong keepingKinds tool "backup type" text with
      | .ok "numbered" => pure (some (Keeping.numbered, suffix))
      | .ok "ending" => pure (some (.ending, suffix))
      | .ok "either" => pure (some (.either, suffix))
      | .ok _ => pure none
      | .error text => throw text
  return ⟨asking = "interactive", asking = "no-clobber", found.has "update", keeping⟩

/-- The name of the copy of a file that is replaced. -/
def copyName (files : System) (keeping : Keeping × String) (name : String) : String :=
  let numbered (i : Nat) : String := name ++ ".~" ++ i.repr ++ "~"
  let isThere (i : Nat) : Bool := (files.entry? (Path.ofString (numbered i))).toBool
  let next := ((List.range 1000).reverse.find? fun i => 0 < i && isThere i).getD 0 + 1
  match keeping.1 with
  | .ending => name ++ keeping.2
  | .numbered => numbered next
  | .either => if 1 < next then numbered next else name ++ keeping.2

/-- Makes room for a file where another one is, unless that is to stay; gives what is said of a copy that
is kept. `older` says that what is in the way is older. -/
def makeRoom (r : Replacing) (tool : String) (older : Bool) (f : Filing) (goal : String) :
    Filing × Option String :=
  match f.files.resolve false (Path.ofString goal) with
  | .ok (.found place node) =>
    if node.isDir then (f, some "")
    else if r.onlyOlder && !older then (f, none)
    else if r.never then (f, none)
    else
      let (f, goes) :=
        if r.asks then f.ask (tool ++ ": overwrite " ++ Quoting.always goal ++ "? ") else (f, true)
      if !goes then (f, none)
      else
        match r.keeping with
        | none => (f, some "")
        | some keeping =>
          let kept := copyName f.files keeping goal
          let last := (Path.fileName? (Path.ofString kept)).getD []
          ({ f with files := f.files.move place node place.dropLast last },
            some (" (backup: " ++ Quoting.always kept ++ ")"))
  | _ => (f, some "")

/-! ## Copies -/

/-- Which links are followed: all of them, those that are named, or none. -/
inductive Following
  | all
  | named
  | nothing
deriving DecidableEq

/-- How files are copied. -/
structure Copying where
  replacing : Replacing
  recursive : Bool
  following : Following
  verbose : Bool
  keepsMode : Bool
  keepsTime : Bool
  asHard : Bool
  asSymbolic : Bool
  clears : Bool
  onlyTraits : Bool

/-- The traits of a copy: what of those of the source is kept, and what the copy has anyway. -/
def Copying.traits (c : Copying) (source copy : Traits) : Traits :=
  let copy := if c.keepsMode then { copy with mode := source.mode, owner := source.owner, group := source.group }
    else copy
  if c.keepsTime then { copy with changed := source.changed, used := source.used } else copy

/-- Are two paths the same file? -/
def isSame (files : System) (a b : String) : Bool :=
  match files.resolve true (Path.ofString a), files.resolve true (Path.ofString b) with
  | .ok (.found p m), .ok (.found q n) =>
    p = q || (m.traits.number.isSome && m.traits.number = n.traits.number)
  | _, _ => false

/-- Copies one file or, if so wished, a directory with what is in it; the fuel bounds how deep it is. -/
def copy (c : Copying) (input : Bytes) : Nat → Bool → Filing → String → String → Filing
  | 0, _, f, _, _ => f
  | fuel + 1, named, f, name, goal =>
    let p := Path.ofString name
    let q := Path.ofString goal
    let follows := c.following = .all || (c.following = .named && named)
    match (if follows then f.files.node? p else f.files.entry? p) with
    | .error e => f.fail ("cp: cannot stat " ++ Quoting.always name ++ ": " ++ e.reason)
    | .ok node =>
      let there := f.files.entry? q
      let isDirThere := f.files.isDir q
      let said (note : String) : String :=
        Quoting.always name ++ " -> " ++ Quoting.always goal ++ note
      let older := match there with
        | .ok rival => rival.traits.changed < node.traits.changed
        | .error _ => true
      match node with
      | .dir t entries =>
        let inside := match f.files.canonical p, f.files.canonical q with
          | .ok here, .ok there => isBelow here there
          | _, _ => false
        if !c.recursive then
          f.fail ("cp: -r not specified; omitting directory " ++ Quoting.always name)
        else if inside then
          f.fail ("cp: cannot copy a directory, " ++ Quoting.always name ++ ", into itself, " ++
            Quoting.always goal)
        else if there.toBool && !isDirThere then
          f.fail ("cp: cannot overwrite non-directory " ++ Quoting.always goal ++ " with directory " ++
            Quoting.always name)
        else
          let made : Except Filing Filing := if isDirThere then .ok f else
            match f.files.makeDir q with
            | .ok files =>
              .ok (f.made ((files.retrait true q fun n =>
                { n with mode := Files.Permissions.without t.mode files.mask }).toOption.getD files)
                c.verbose (said ""))
            | .error e =>
              .error (f.fail ("cp: cannot create directory " ++ Quoting.always goal ++ ": " ++ e.reason))
          match made with
          | .error f => f
          | .ok f =>
            let f := entries.foldl (fun (f : Filing) (inner, _) =>
              let text := String.ofList (Text.Utf8.lossy inner)
              let join (dir : String) : String := dir ++ (if dir.endsWith "/" then "" else "/") ++ text
              copy c input fuel false f (join name) (join goal)) f
            { f with files := (f.files.retrait true q (c.traits t)).toOption.getD f.files }
      | node =>
        if there.toBool && isSame f.files name goal && !(c.asSymbolic || c.asHard) &&
            !(node.isLink && !follows) then
          f.fail ("cp: " ++ Quoting.always name ++ " and " ++ Quoting.always goal ++ " are the same file")
        else
          match makeRoom c.replacing "cp" older f goal with
          | (f, none) => f
          | (f, some note) =>
            if isDirThere then
              f.fail ("cp: cannot overwrite directory " ++ Quoting.always goal ++ " with non-directory")
            else
              let there := f.files.entry? q
              let f := if c.clears || node.isLink then
                  { f with files := (f.files.remove false false q).toOption.getD f.files }
                else f
              let failing (e : Files.Error) : Filing :=
                f.fail ("cp: cannot create regular file " ++ Quoting.always goal ++ ": " ++ e.reason)
              match node with
              | .link t target =>
                match f.files.put q (.link t target) with
                | .ok files => f.made files c.verbose (said note)
                | .error e =>
                  f.fail ("cp: cannot create symbolic link " ++ Quoting.always goal ++ ": " ++ e.reason)
              | node =>
                if c.asSymbolic then
                  if !name.startsWith "/" && goal.toList.contains '/' then
                    f.fail ("cp: " ++ Quoting.name goal ++
                      ": can make relative symbolic links only in current directory")
                  else
                    match f.files.makeLink p q with
                    | .ok files => f.made files c.verbose (said note)
                    | .error e => f.fail ("cp: cannot create symbolic link " ++ Quoting.always goal ++
                        " to " ++ Quoting.always name ++ ": " ++ e.reason)
                else if c.asHard then
                  match f.files.resolve follows p with
                  | .ok (.found place node) =>
                    match f.files.addName node place q with
                    | .ok files => f.made files c.verbose (said note)
                    | .error e =>
                      if isSame f.files name goal then f
                      else f.fail ("cp: cannot create hard link " ++ Quoting.always goal ++ " to " ++
                        Quoting.always name ++ ": " ++ e.reason)
                  | _ => f
                else if there.toBool && !f.files.pathExists q && (f.files.entry? q).toBool then
                  f.fail ("cp: not writing through dangling symlink " ++ Quoting.always goal)
                else
                  let contents := if name = "/dev/stdin" then input else (f.files.read p).toOption.getD []
                  let contents := if c.onlyTraits then (f.files.read q).toOption.getD [] else contents
                  let isNew := !f.files.pathExists q
                  match node, c.recursive, isNew with
                  | .pipe t held, true, true =>
                    match f.files.put q (.pipe t held) with
                    | .ok files => f.made files c.verbose (said note)
                    | .error e => failing e
                  | _, _, _ =>
                    match f.files.write q contents with
                    | .error e => failing (if goal.endsWith "/" then .notDirectory else e)
                    | .ok files =>
                      let settle (t : Traits) : Traits :=
                        c.traits node.traits (if isNew then
                          { t with mode := Files.Permissions.without node.traits.mode files.mask } else t)
                      let files := if isNew || c.keepsMode || c.keepsTime then
                          (files.retrait true q settle).toOption.getD files
                        else files
                      f.made files c.verbose (said note)

/-- Does one thing with each source. A file that was just put somewhere is not replaced by another one. -/
def withEach (tool target : String) (alone : Bool) (names : List String) (f : Filing)
    (one : Filing → String → String → Filing) : Filing :=
  (names.foldl (fun (acc : Filing × List (String × String)) name =>
    let (f, done) := acc
    let goal := if alone then target else placeIn f.files target name
    let isFile := !f.files.isDir (Path.ofString name)
    match done.find? fun (_, other) => other = goal with
    | some (source, _) =>
      if isFile && source = name then
        (f.warn (tool ++ ": warning: source file " ++ Quoting.always name ++ " specified more than once"), done)
      else if isFile then
        (f.fail (tool ++ ": will not overwrite just-created " ++ Quoting.always goal ++ " with " ++
          Quoting.always name), done)
      else (one f name goal, done)
    | none => (one f name goal, (name, goal) :: done)) (f, [])).1

/-- Copies files. -/
def cp (s : Scene) : Deed :=
  reading s "cp" 1 (replacingForms ++ [.flag 'r' "recursive", .flag 'R' "recursive", .flag 'a' "archive",
    .flag 'v' "verbose", .valued 't' "target-directory", .flag 'T' "no-target-directory",
    .flag 's' "symbolic-link", .flag 'l' "link", .flag 'p' "p", ⟨none, "preserve", .perhaps⟩,
    .longValued "no-preserve", .flag 'd' "d", .flag 'P' "no-dereference", .flag 'L' "dereference",
    .flag 'H' "H", .flag 'u' "update", .flag 'x' "one-file-system", .longFlag "remove-destination",
    .longFlag "attributes-only", .longFlag "parents", .longFlag "strip-trailing-slashes",
    .longFlag "copy-contents", ⟨none, "reflink", .perhaps⟩, .longValued "sparse", .flag 'Z' "Z"])
    fun found operands =>
    let recursive := found.has "recursive" || found.has "archive"
    let following := (found.filterMap fun (name, _) =>
      match name with
      | "archive" | "d" | "no-dereference" => some Following.nothing
      | "dereference" => some .all
      | "H" => some .named
      | _ => none).getLastD (if recursive then .nothing else .all)
    let kept := (found.all "preserve").flatMap fun text =>
      if text = "" then ["mode", "timestamps"] else text.splitOn ","
    let keeps (what : String) : Bool :=
      (found.has "archive" || found.has "p" || kept.contains what || kept.contains "all") &&
        !((found.all "no-preserve").flatMap (·.splitOn ",")).contains what
    sourcesAndTarget s "cp" found operands fun names target =>
      match Replacing.ofOptions s "cp" found with
      | .error text => complaint s text 1
      | .ok replacing =>
        if found.has "link" && found.has "symbolic-link" then
          complaint s (hint "cp" "cannot make both hard and symbolic links") 1
        else
          let c : Copying := {
            replacing, recursive, following
            verbose := found.has "verbose"
            keepsMode := keeps "mode"
            keepsTime := keeps "timestamps"
            asHard := found.has "link"
            asSymbolic := found.has "symbolic-link"
            clears := found.has "remove-destination"
            onlyTraits := found.has "attributes-only" }
          let names := if found.has "strip-trailing-slashes" then
              names.map fun name => String.ofList (dropEnd '/' name.toList)
            else names
          if found.has "parents" then
            let f := names.foldl (fun (f : Filing) name =>
              let goal := target ++ "/" ++ name
              let (files, _) := f.files.makeDirs (Path.ofString (withoutLast goal))
              copy c s.input.first 64 true { f with files } name goal) (.start s)
            f.deed s
          else
            (withEach "cp" target (found.has "no-target-directory") names (.start s)
              (copy c s.input.first 64 true)).deed s

/-! ## Moves -/

/-- Moves one file. -/
def move (r : Replacing) (verbose : Bool) (f : Filing) (name goal : String) : Filing :=
  let source := Path.ofString name
  match f.files.entry? source with
  | .error e => f.fail ("mv: cannot stat " ++ Quoting.always name ++ ": " ++ e.reason)
  | .ok node =>
    let here := f.files.resolve false (Path.dropSlashes source)
    let there := f.files.resolve false (Path.dropSlashes (Path.ofString goal))
    let said (note : String) : String :=
      "renamed " ++ Quoting.always name ++ " -> " ++ Quoting.always goal ++ note
    match here, there with
    | .ok (.found place _), .ok (.found other rival) =>
      let filled := !rival.entries.isEmpty
      if place = other then
        f.fail ("mv: " ++ Quoting.always name ++ " and " ++ Quoting.always goal ++ " are the same file")
      else
        match makeRoom r "mv" (rival.traits.changed < node.traits.changed) f goal with
        | (f, none) => f
        | (f, some note) =>
          if node.isDir && !rival.isDir then
            f.fail ("mv: cannot overwrite non-directory " ++ Quoting.always goal ++
              " with directory " ++ Quoting.always name)
          else if !node.isDir && rival.isDir then
            f.fail ("mv: cannot overwrite directory " ++ Quoting.always goal ++ " with non-directory")
          else if place.isPrefixOf other then
            f.fail ("mv: cannot move " ++ Quoting.always name ++ " to a subdirectory of itself, " ++
              Quoting.always goal)
          else if node.isDir && filled then
            f.fail ("mv: cannot overwrite " ++ Quoting.always goal ++ ": Directory not empty")
          else
            f.made (f.files.move place node other.dropLast (other.getLast?.getD [])) verbose (said note)
    | .ok (.found place _), .ok (.absent dir last) =>
      if place.isPrefixOf dir then
        f.fail ("mv: cannot move " ++ Quoting.always name ++ " to a subdirectory of itself, " ++
          Quoting.always goal)
      else if goal.endsWith "/" && !node.isDir then
        f.fail ("mv: cannot move " ++ Quoting.always name ++ " to " ++ Quoting.always goal ++
          ": Not a directory")
      else f.made (f.files.move place node dir last) verbose (said "")
    | _, .error e =>
      f.fail ("mv: cannot move " ++ Quoting.always name ++ " to " ++ Quoting.always goal ++ ": " ++ e.reason)
    | _, _ => f

/-- Moves files. -/
def mv (s : Scene) : Deed :=
  reading s "mv" 1 (replacingForms ++ [.flag 'v' "verbose", .valued 't' "target-directory",
    .flag 'T' "no-target-directory", .flag 'u' "update", .longFlag "strip-trailing-slashes",
    .flag 'Z' "context"]) fun found operands =>
    sourcesAndTarget s "mv" found operands fun names target =>
      match Replacing.ofOptions s "mv" found with
      | .error text => complaint s text 1
      | .ok r =>
        (withEach "mv" target (found.has "no-target-directory") names (.start s)
          (move r (found.has "verbose"))).deed s

/-! ## Links -/

/-- Makes links. -/
def ln (s : Scene) : Deed :=
  reading s "ln" 1 (replacingForms ++ [.flag 's' "symbolic", .flag 'v' "verbose",
    .valued 't' "target-directory", .flag 'T' "no-target-directory", .flag 'n' "no-dereference",
    .flag 'r' "relative", .flag 'L' "logical", .flag 'P' "physical", .flag 'd' "directory",
    .flag 'F' "directory"]) fun found operands =>
    let isAlone := found.has "no-target-directory"
    let operands := match operands with
      | [name] => if (found.value? "target-directory").isNone && !isAlone then [name, "."] else [name]
      | names => names
    let symbolic := found.has "symbolic"
    let kind := if symbolic then "symbolic" else "hard"
    if found.has "relative" && !symbolic then
      complaint s "ln: cannot do --relative without --symbolic" 1
    else
    sourcesAndTarget s "ln" found operands fun names target =>
      match Replacing.ofOptions s "ln" (found.filter (·.1 ≠ "no-clobber")) with
      | .error text => complaint s text 1
      | .ok r =>
      let one (f : Filing) (name goal : String) : Filing :=
        let p := Path.ofString goal
        match (if symbolic then .ok (Files.Target.absent [] [])
            else f.files.resolve (found.has "logical") (Path.ofString name)) with
        | .error e => f.fail ("ln: failed to access " ++ Quoting.always name ++ ": " ++ e.reason)
        | .ok source =>
          let isDir := match source with
            | .found _ node => node.isDir
            | .absent .. => false
          let isMissing := !symbolic && (source matches .absent ..)
          if isMissing then
            f.fail ("ln: failed to access " ++ Quoting.always name ++ ": No such file or directory")
          else if isDir then
            f.fail ("ln: " ++ Quoting.name name ++ ": hard link not allowed for directory")
          else
            let failure (e : Files.Error) : String := "ln: failed to create " ++ kind ++ " link " ++
              Quoting.always goal ++
              (if !symbolic && e ≠ .alreadyExists then " => " ++ Quoting.always name else "") ++
              ": " ++ e.reason
            let isThere := (f.files.entry? p).toBool
            let (f, goes, note) : Filing × Bool × String :=
              match r.keeping with
              | some keeping =>
                if isThere && !f.files.isDir p then
                  match f.files.resolve false p with
                  | .ok (.found place node) =>
                    let kept := copyName f.files keeping goal
                    let last := (Path.fileName? (Path.ofString kept)).getD []
                    ({ f with files := f.files.move place node place.dropLast last }, true,
                      Quoting.always kept ++ " ~ ")
                  | _ => (f, true, "")
                else (f, true, "")
              | none =>
                if isThere && r.asks then
                  let (f, goes) := f.ask ("ln: replace " ++ Quoting.always goal ++ "? ")
                  (f, goes, "")
                else (f, true, "")
            if !goes then f
            else
              let isDirThere := (f.files.entry? p).toOption.any Node.isDir
              let f := if isThere && !isDirThere && (found.has "force" || r.asks) &&
                  !(!symbolic && isSame f.files name goal) then
                  { f with files := (f.files.remove false false p).toOption.getD f.files }
                else f
              let made : Except Files.Error System := match source with
                | .found place node =>
                  if found.has "force" && isSame f.files name goal then .ok f.files
                  else f.files.addName node place p
                | .absent .. =>
                  let text := Path.ofString name
                  let text := if !found.has "relative" then text
                    else
                      match destination f.files .nothing name, destination f.files .nothing (withoutLast goal) with
                      | .ok there, .ok here => relativeTo here there
                      | _, _ => text
                  f.files.makeLink text p
              let linked := match made, source with
                | .ok files, .absent .. =>
                  match files.entry? p with
                  | .ok (.link _ text) => String.ofList (Text.Utf8.lossy text)
                  | _ => name
                | _, _ => name
              match made with
              | .ok files => f.made files (found.has "verbose") (note ++ Quoting.always goal ++
                  (if symbolic then " -> " else " => ") ++ Quoting.always linked)
              | .error e => f.fail (failure e)
      let f := Filing.start s
      let isLinked := (f.files.entry? (Path.ofString target)).toOption.any Node.isLink
      (withEach "ln" target (isAlone || (isLinked && found.has "no-dereference")) names f one).deed s

/-- Copies files and sets their permissions, or makes directories. -/
def install (s : Scene) : Deed :=
  reading s "install" 1 (replacingForms ++ [.flag 'd' "directory", .flag 'D' "D", .valued 'm' "mode",
    .valued 'o' "owner", .valued 'g' "group", .flag 'v' "verbose", .flag 'c' "c", .flag 'p' "preserve-timestamps",
    .flag 's' "strip", .flag 'C' "compare", .valued 't' "target-directory",
    .flag 'T' "no-target-directory"]) fun found operands =>
    match modeFor { s with files := { s.files with mask := 0 } } 0 false (found.value? "mode") with
    | .error text => complaint s ("install: invalid mode " ++ Quoting.value text) 1
    | .ok mode =>
      let mode := if found.has "mode" then mode else 0o755
      let verbose := found.has "verbose"
      let settle (follow : String) (files : System) : System :=
        (files.retrait true (Path.ofString follow) fun t => { t with mode }).toOption.getD files
      if found.has "directory" then
        if operands.isEmpty then complaint s (hint "install" "missing file operand") 1
        else
          let one (f : Filing) (name : String) : Filing :=
            let fresh := (wayTo name).filter fun front => !f.files.isDir (Path.ofString front)
            match f.files.makeDirs (Path.ofString name) with
            | (files, none) =>
              let f := if verbose then fresh.foldl (fun (f : Filing) front =>
                f.say ("install: creating directory " ++ Quoting.always front)) f else f
              { f with files := settle name files }
            | (files, some e) =>
              { f with files }.fail ("install: cannot create directory " ++ Quoting.always name ++ ": " ++
                e.reason)
          (operands.foldl one (.start s)).deed s
      else
        sourcesAndTarget s "install" found operands fun names target =>
          let one (f : Filing) (name goal : String) : Filing :=
            let f := if found.has "D" then
                { f with files := (f.files.makeDirs (Path.ofString (withoutLast goal))).1 } else f
            match f.files.node? (Path.ofString name) with
            | .error e => f.fail ("install: cannot stat " ++ Quoting.always name ++ ": " ++ e.reason)
            | .ok node =>
              if node.isDir then f.fail ("install: omitting directory " ++ Quoting.always name)
              else if isSame f.files name goal then
                f.fail ("install: " ++ Quoting.always name ++ " and " ++ Quoting.always goal ++
                  " are the same file")
              else
                let files := (f.files.remove false false (Path.ofString goal)).toOption.getD f.files
                match files.write (Path.ofString goal) ((f.files.read (Path.ofString name)).toOption.getD []) with
                | .error e => f.fail ("install: cannot create regular file " ++ Quoting.always goal ++ ": " ++
                    e.reason)
                | .ok files =>
                  f.made (settle goal files) verbose
                    (Quoting.always name ++ " -> " ++ Quoting.always goal)
          (withEach "install" target (found.has "no-target-directory") names (.start s) one).deed s

end Scratchpad.Shell.Tools
