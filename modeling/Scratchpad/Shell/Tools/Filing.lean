import Scratchpad.Files.Permissions
import Scratchpad.Shell.Tools.Dates

/-!
# Tools for files

The tools that make and remove files and directories, and those that change what is known of them. A tool
may ask before it does something; its input answers.
-/

namespace Scratchpad.Shell.Tools

open Deed (complaint ofWrites told)
open Files (Node Path Permissions.adjust Permissions.ofText? Permissions.letters System Traits)

/-- The files on their way through a tool, what it has written so far, last piece first, what is left of
its input, and whether something failed. -/
structure Filing where
  files : System
  writes : List (Outlet × Bytes)
  input : Flow
  failed : Bool

namespace Filing

def start (s : Scene) : Filing := ⟨s.files, [], s.input, false⟩

def say (f : Filing) (text : String) : Filing :=
  { f with writes := (.out, Bytes.ofString (text ++ "\n")) :: f.writes }

def fail (f : Filing) (text : String) : Filing :=
  { f with writes := told text :: f.writes, failed := true }

/-- Says something that is no failure. -/
def warn (f : Filing) (text : String) : Filing :=
  { f with writes := told text :: f.writes }

/-- Asks a question; an answer that begins with the letter of a yes is one. -/
def ask (f : Filing) (question : String) : Filing × Bool :=
  let f := { f with writes := (.err, Bytes.ofString question) :: f.writes }
  match f.input.splitAtLine 1 with
  | some (line, rest) => ({ f with input := rest }, line.head?.any fun b => b = 0x59 || b = 0x79)
  | none => (f, false)

/-- Goes on with changed files, and says so if asked. -/
def made (f : Filing) (files : System) (verbose : Bool) (text : String) : Filing :=
  if verbose then { f with files }.say text else { f with files }

def deed (f : Filing) (s : Scene) : Deed :=
  { ofWrites s f.writes.reverse (if f.failed then 1 else 0) with
    files := some f.files, unread := f.input }

end Filing

/-! ## Making and removing -/

/-- The paths on the way to a path, with the path itself. -/
def wayTo (path : String) : List String :=
  let parts := path.splitOn "/"
  ((List.range parts.length).map fun i => "/".intercalate (parts.take (i + 1))).filter fun front =>
    front ≠ "" && !front.endsWith "/"

/-- The permissions of an entry that is made with a mode, where it would have others without. -/
def modeFor (s : Scene) (usual : Nat) (isDir : Bool) (mode : Option String) : Except String Nat :=
  match mode with
  | none => .ok (Files.Permissions.without usual s.files.mask)
  | some text =>
    match Files.Permissions.ofText? text.toList with
    | some changes => .ok (Files.Permissions.adjust changes isDir s.files.mask usual)
    | none => .error text

/-- Makes directories. -/
def mkdir (s : Scene) : Deed :=
  reading s "mkdir" 1 [.flag 'p' "parents", .valued 'm' "mode", .flag 'v' "verbose"]
    fun found operands =>
    if operands.isEmpty then missingOperand s "mkdir"
    else
      match modeFor s 0o777 true (found.value? "mode") with
      | .error text => complaint s ("mkdir: invalid mode " ++ Quoting.value text) 1
      | .ok mode =>
        let one (f : Filing) (name : String) : Filing :=
          let p := Path.ofString name
          let verbose := found.has "verbose"
          let text := "mkdir: created directory " ++ Quoting.always name
          let failure (name : String) (e : Files.Error) : String :=
            "mkdir: cannot create directory " ++ Quoting.always name ++ ": " ++ e.reason
          let settled (files : System) : System :=
            (files.retrait true p fun t => { t with mode }).toOption.getD files
          if found.has "parents" then
            let fresh := (wayTo name).filter fun front => !f.files.isDir (Path.ofString front)
            let said (f : Filing) : Filing :=
              if verbose then fresh.foldl (fun (f : Filing) front =>
                f.say ("mkdir: created directory " ++ Quoting.always front)) f else f
            match (if name = "" then (f.files, some .noEntry) else f.files.makeDirs p) with
            | (files, none) => said { f with files := if fresh.isEmpty then files else settled files }
            | (files, some e) =>
              let stop := ((wayTo name).find? fun front =>
                f.files.pathExists (Path.ofString front) && !f.files.isDir (Path.ofString front)).getD name
              { f with files }.fail (failure stop e)
          else
            match f.files.makeDir p with
            | .ok files => f.made (settled files) verbose text
            | .error e => f.fail (failure name e)
        (operands.foldl one (.start s)).deed s

/-- Removes empty directories. -/
def rmdir (s : Scene) : Deed :=
  reading s "rmdir" 1 [.flag 'p' "parents", .flag 'v' "verbose",
    .longFlag "ignore-fail-on-non-empty"] fun found operands =>
    let one (acc : Filing × Bool) (name : String) : Filing × Bool :=
      let (f, stopped) := acc
      let p := Path.ofString name
      if stopped then acc
      else
        let f := if found.has "verbose" then f.say ("rmdir: removing directory, " ++
            Quoting.always name) else f
        let failing (e : Files.Error) : Filing :=
          f.fail ("rmdir: failed to remove " ++ Quoting.always name ++ ": " ++ e.reason)
        if !f.files.isDir p && (f.files.entry? p).toBool then (failing .notDirectory, true)
        else
          match f.files.remove true false p with
          | .ok files => ({ f with files }, false)
          | .error e =>
            if found.has "ignore-fail-on-non-empty" && e = .notEmpty then (f, true)
            else (failing e, true)
    let way (name : String) : List String :=
      if found.has "parents" then (wayTo name).reverse else [name]
    if operands.isEmpty then missingOperand s "rmdir"
    else (operands.foldl (fun f name => ((way name).foldl one (f, false)).1) (.start s)).deed s

/-- What a file is called when something is asked about it. -/
def kindText : Node → String
  | .file _ [] => "regular empty file"
  | .file .. => "regular file"
  | .dir .. => "directory"
  | .link .. => "symbolic link"
  | .pipe .. => "fifo"
  | .device _ => "character special file"

/-- Removes an entry with all that is in it, asking first if so wished; the fuel bounds how deep it
is. -/
def removeTree (asks verbose : Bool) : Nat → Filing → String → Filing
  | 0, f, _ => f
  | fuel + 1, f, name =>
    let p := Path.ofString name
    let failing (f : Filing) (e : Files.Error) : Filing :=
      f.fail ("rm: cannot remove " ++ Quoting.always name ++ ": " ++ e.reason)
    match f.files.entry? p with
    | .error e => failing f e
    | .ok (.dir _ entries) =>
      let (f, goes) :=
        if !asks || entries.isEmpty then (f, true)
        else f.ask ("rm: descend into directory " ++ Quoting.always name ++ "? ")
      if !goes then f
      else
        let inner := entries.map fun (inner, _) =>
          name ++ (if name.endsWith "/" then "" else "/") ++ String.ofList (Text.Utf8.lossy inner)
        let f := inner.foldl (removeTree asks verbose fuel) f
        let (f, goes) :=
          if asks then f.ask ("rm: remove directory " ++ Quoting.always name ++ "? ") else (f, true)
        if !goes then f
        else
          match f.files.remove true false p with
          | .ok files => f.made files verbose ("removed directory " ++ Quoting.always name)
          | .error e => failing f e
    | .ok node =>
      let (f, goes) :=
        if asks then f.ask ("rm: remove " ++ kindText node ++ " " ++ Quoting.always name ++ "? ")
        else (f, true)
      if !goes then f
      else
        match f.files.remove false false p with
        | .ok files => f.made files verbose ("removed " ++ Quoting.always name)
        | .error e => failing f e

/-- Removes files, and directories with all that is in them if asked. -/
def rm (s : Scene) : Deed :=
  reading s "rm" 1 [.flag 'r' "recursive", .flag 'R' "recursive", .flag 'f' "force",
    .flag 'v' "verbose", .flag 'd' "dir", .flag 'i' "i", .flag 'I' "I", ⟨none, "interactive", .perhaps⟩,
    .longFlag "one-file-system", .longFlag "no-preserve-root",
    ⟨none, "preserve-root", .perhaps⟩] fun found operands =>
    let recursive := found.has "recursive"
    let asking := (found.filterMap fun (name, value) =>
      match name, value with
      | "force", _ | "interactive", "never" | "interactive", "no" | "interactive", "none" => some "force"
      | "i", _ | "interactive", "" | "interactive", "always" | "interactive", "yes" => some "i"
      | "I", _ | "interactive", "once" => some "I"
      | _, _ => none).getLastD ""
    let force := asking = "force"
    let verbose := found.has "verbose"
    let one (f : Filing) (name : String) : Filing :=
      let p := Path.ofString name
      let last := lastName name ""
      let failing (e : Files.Error) : Filing :=
        f.fail ("rm: cannot remove " ++ Quoting.always name ++ ": " ++ e.reason)
      match f.files.entry? p with
      | .error e => if force && (e = .noEntry || e = .notDirectory) then f else failing e
      | .ok node =>
        if recursive && (last = "." || last = "..") then
          f.fail ("rm: refusing to remove '.' or '..' directory: skipping " ++ Quoting.always name)
        else if recursive && last = "/" then
          f.fail ("rm: it is dangerous to operate recursively on '/'\n" ++
            "rm: use --no-preserve-root to override this failsafe")
        else if node.isDir && !recursive then
          if !found.has "dir" then failing .isDirectory
          else if !node.entries.isEmpty then failing .notEmpty
          else removeTree (asking = "i") verbose 2 f name
        else removeTree (asking = "i") verbose 64 f name
    let (f, goes) : Filing × Bool :=
      if asking = "I" && (recursive || 3 < operands.length) then
        (Filing.start s).ask ("rm: remove " ++ operands.length.repr ++
          (if operands.length = 1 then " argument" else " arguments") ++
          (if recursive then " recursively? " else "? "))
      else (.start s, true)
    if operands.isEmpty then (if force then ofWrites s [] 0 else missingOperand s "rm")
    else if !goes then f.deed s
    else (operands.foldl one f).deed s

/-- Makes pipes that have names. -/
def mkfifo (s : Scene) : Deed :=
  reading s "mkfifo" 1 [.valued 'm' "mode"] fun found operands =>
    if operands.isEmpty then missingOperand s "mkfifo"
    else
      match modeFor s 0o666 false (found.value? "mode") with
      | .error _ => complaint s "mkfifo: invalid mode" 1
      | .ok mode =>
        if 0o777 < mode then complaint s "mkfifo: mode must specify only file permission bits" 1
        else
          let one (f : Filing) (name : String) : Filing :=
            let failing (e : Files.Error) : Filing :=
              f.fail ("mkfifo: cannot create fifo " ++ Quoting.always name ++ ": " ++ e.reason)
            match f.files.resolve false (Path.ofString name) with
            | .ok (.absent dir last) =>
              { f with files := f.files.insert dir last (.pipe { f.files.fresh 0 with mode } []) }
            | .ok (.found ..) => failing .alreadyExists
            | .error e => failing e
          (operands.foldl one (.start s)).deed s

/-- Makes pipes that have names; other special files cannot be made. -/
def mknod (s : Scene) : Deed :=
  reading s "mknod" 1 [.valued 'm' "mode"] fun found operands =>
    match operands with
    | [] => missingOperand s "mknod"
    | [name] => complaint s (hint "mknod" ("missing operand after " ++ Quoting.always name)) 1
    | [name, "p"] => mkfifo { s with
        args := (found.all "mode").flatMap (fun mode => ["-m", mode]) ++ ["--", name] }
    | _ :: "p" :: extra :: _ => extraOperand s "mknod" extra
    | [_, kind] =>
      if kind = "b" || kind = "c" || kind = "u" then
        complaint s ("mknod: missing operand after " ++ Quoting.always kind ++
          "\nSpecial files require major and minor device numbers.\n" ++
          "Try 'mknod --help' for more information.") 1
      else complaint s (hint "mknod" ("invalid device type " ++ Quoting.always kind)) 1
    | name :: _ => complaint s ("mknod: " ++ name ++ ": Operation not permitted") 1

/-! ## Times -/

/-- The time that digits stand for: perhaps the year, the month, the day, the hour, the minute, and perhaps
the seconds behind a point. -/
def stampedTime? (s : Scene) (text : String) : Option Int := do
  let cs := text.toList
  let front := cs.takeWhile (· ≠ '.')
  let digits := cs.filter Char.isDigit
  if cs.any fun c => !c.isDigit && c ≠ '.' then none
  let two (cs : List Char) : Int := (Time.Phrase.value (cs.take 2) : Nat)
  let thisYear := (s.zone.moment s.now.1 0).year
  let (year, rest) ← match front.length with
    | 8 => some (thisYear, front)
    | 10 => some ((if two front < 69 then 2000 else 1900) + two front, front.drop 2)
    | 12 => some (two front * 100 + two (front.drop 2), front.drop 4)
    | _ => none
  let second ← match cs.drop front.length with
    | [] => some 0
    | ['.', a, b] => some (two [a, b])
    | _ => none
  let m : Time.Moment := ⟨year, two rest, two (rest.drop 2), two (rest.drop 4), two (rest.drop 6), second, 0⟩
  if digits.isEmpty || m.normal ≠ m then none
  return s.zone.seconds m * 1000000000

/-- The one value of a list that a text is or begins, where several words mean the same, or what is wrong
with it. -/
def chosenAmong (forms : List (List String × String)) (tool option text : String) :
    Except String String :=
  let fits := forms.filter fun (names, _) => names.any fun name => text.toList.isPrefixOf name.toList
  match forms.find? fun (names, _) => names.contains text, fits with
  | some (_, form), _ => .ok form
  | none, [(_, form)] => .ok form
  | none, fits =>
    .error (tool ++ ": " ++ (if fits.isEmpty then "invalid" else "ambiguous") ++ " argument " ++
      Quoting.always text ++ " for " ++ Quoting.always option ++ "\nValid arguments are:\n" ++
      String.join (forms.map fun (names, _) => "  - " ++ ", ".intercalate (names.map Quoting.always) ++ "\n") ++
      "Try '" ++ tool ++ " --help' for more information.")

/-- Sets when files were changed and used, making empty ones where there are none. -/
def touch (s : Scene) : Deed :=
  reading s "touch" 1 [.flag 'c' "no-create", .flag 'a' "a", .flag 'm' "m", .flag 'f' "f",
    .valued 'd' "date", .valued 'r' "reference", .valued 't' "t", .flag 'h' "no-dereference",
    .longValued "time"] fun found operands =>
    let which := (found.value? "time").map fun text =>
      chosenAmong [(["atime", "access", "use"], "a"), (["mtime", "modify"], "m")] "touch" "--time" text
    let reference : Except String (Option Int) := match found.value? "reference" with
      | none => .ok none
      | some name =>
        match (if found.has "no-dereference" then s.files.entry? (Path.ofString name)
            else s.files.node? (Path.ofString name)) with
        | .ok node => .ok (some node.traits.changed)
        | .error e =>
          .error ("touch: failed to get attributes of " ++ Quoting.always name ++ ": " ++ e.reason)
    match which with
    | some (.error text) => complaint s text 1
    | which =>
      let chosen := (which.bind Except.toOption).getD ""
      let onlyUsed := (found.has "a" || chosen = "a") && !(found.has "m" || chosen = "m")
      let onlyChanged := (found.has "m" || chosen = "m") && !(found.has "a" || chosen = "a")
      let invalid (text : String) : Deed :=
        complaint s ("touch: invalid date format " ++ Quoting.always text) 1
      match reference, found.value? "date", found.value? "t" with
      | .error text, _, _ => complaint s text 1
      | .ok base, date, stamp =>
        if stamp.isSome && (date.isSome || base.isSome) then
          complaint s (hint "touch" "cannot specify times from more than one source") 1
        else
          let from_ := base.getD s.files.now
          let time : Option Int := match date, stamp with
            | some text, _ =>
              (Time.Phrase.read? s.zone (from_ / 1000000000) (from_ % 1000000000) text).map
                fun (seconds, nano) => seconds * 1000000000 + nano
            | none, some text => stampedTime? s text
            | none, none => some from_
          match time with
          | none => invalid ((date.or stamp).getD "")
          | some time =>
            let set (t : Traits) : Traits :=
              if onlyUsed then { t with used := some time }
              else if onlyChanged then { t with changed := time, used := some (t.used.getD t.changed) }
              else { t with changed := time, used := none }
            let one (f : Filing) (name : String) : Filing :=
              let p := Path.ofString name
              let follow := !found.has "no-dereference"
              match f.files.retrait follow p set with
              | .ok files => { f with files }
              | .error e =>
                if found.has "no-create" && e = .noEntry then f
                else if found.has "no-dereference" || (name.endsWith "/" && e = .noEntry) then
                  f.fail ("touch: setting times of " ++ Quoting.always name ++ ": " ++ e.reason)
                else
                  match (f.files.write p []).bind fun files => files.retrait follow p set with
                  | .ok files => { f with files }
                  | .error e =>
                    f.fail ("touch: cannot touch " ++ Quoting.always name ++ ": " ++ e.reason)
            if operands.isEmpty then complaint s (hint "touch" "missing file operand") 1
            else (operands.foldl one (.start s)).deed s

/-! ## Permissions and owners -/

/-- The paths of an entry and of all that is in it, each in front of what is in it; the fuel bounds how deep
it is. -/
def pathsBelow (files : System) : Nat → String → List String
  | 0, name => [name]
  | fuel + 1, name =>
    match files.entry? (Path.ofString name) with
    | .ok (.dir _ entries) =>
      name :: entries.flatMap fun (inner, _) =>
        pathsBelow files fuel (name ++ (if name.endsWith "/" then "" else "/") ++
          String.ofList (Text.Utf8.lossy inner))
    | _ => [name]

/-- A mode that is shown. -/
def modeShown (mode : Nat) : String :=
  padOctal 4 mode ++ " (" ++ Files.Permissions.letters mode ++ ")"

/-- Changes permissions. -/
def chmod (s : Scene) : Deed :=
  let isMode (arg : String) : Bool :=
    arg.startsWith "-" && (Files.Permissions.ofText? arg.toList).isSome && arg ≠ "-"
  let early := s.args.takeWhile (· ≠ "--")
  let signed := early.filter isMode
  let rest := (early.filter fun arg => !isMode arg) ++ s.args.drop early.length
  reading { s with args := rest } "chmod" 1 [.flag 'c' "changes", .flag 'f' "silent", .longFlag "quiet",
    .flag 'v' "verbose", .flag 'R' "recursive", .longValued "reference", .longFlag "preserve-root",
    .longFlag "no-preserve-root"] fun found operands =>
    let given := match signed, found.value? "reference" with
      | [], none => operands.head?
      | [], some _ => none
      | signed, _ => some (",".intercalate signed)
    let names := if signed.isEmpty && !found.has "reference" then operands.tail else operands
    let silent := found.has "silent" || found.has "quiet"
    let change : Except String (Bool → Nat → Nat) := match found.value? "reference" with
      | some name =>
        match s.files.node? (Path.ofString name) with
        | .ok node => .ok fun _ _ => node.traits.mode
        | .error e =>
          .error ("chmod: failed to get attributes of " ++ Quoting.always name ++ ": " ++ e.reason)
      | none =>
        match given.bind fun mode => Files.Permissions.ofText? mode.toList with
        | some changes => .ok fun isDir mode => Files.Permissions.adjust changes isDir s.files.mask mode
        | none => .error (hint "chmod" ("invalid mode: " ++ Quoting.always (given.getD "")))
    if given.isNone && !found.has "reference" then missingOperand s "chmod"
    else if names.isEmpty then
      complaint s (hint "chmod" ("missing operand" ++ (match given with
        | some mode => if signed.isEmpty then " after " ++ Quoting.always mode else ""
        | none => ""))) 1
    else
      match change with
      | .error text => complaint s text 1
      | .ok change =>
        let one (top : Bool) (f : Filing) (name : String) : Filing :=
          let p := Path.ofString name
          match f.files.entry? p with
          | .ok node =>
            if node.isLink && !top then f
            else
              match f.files.node? p with
              | .error _ =>
                if silent then { f with failed := true }
                else f.fail ("chmod: cannot operate on dangling symlink " ++ Quoting.always name)
              | .ok node =>
                let before := node.traits.mode
                let after := change node.isDir before
                let naive := match given.bind fun mode => Files.Permissions.ofText? mode.toList with
                  | some changes => Files.Permissions.adjust changes node.isDir 0 before
                  | none => after
                let surprises := !signed.isEmpty && Files.Permissions.without after naive ≠ 0
                let f := if surprises then f.fail ("chmod: " ++ Quoting.name name ++ ": new permissions are " ++
                    Files.Permissions.letters after ++ ", not " ++ Files.Permissions.letters naive) else f
                let files := (f.files.retrait true p fun t => { t with mode := after }).toOption.getD f.files
                if before ≠ after then
                  f.made files (found.has "verbose" || found.has "changes") ("mode of " ++
                    Quoting.always name ++ " changed from " ++ modeShown before ++ " to " ++ modeShown after)
                else
                  f.made files (found.has "verbose") ("mode of " ++ Quoting.always name ++
                    " retained as " ++ modeShown after)
          | .error e =>
            if silent then { f with failed := true }
            else f.fail ("chmod: cannot access " ++ Quoting.always name ++ ": " ++ e.reason)
        let all (f : Filing) (name : String) : Filing :=
          match (if found.has "recursive" then pathsBelow f.files 64 name else [name]) with
          | [] => f
          | first :: inner => inner.foldl (one false) (one true f first)
        (names.foldl all (.start s)).deed s

/-- The users that have names. -/
def users : List (String × Nat) :=
  [("root", 0), ("daemon", 1), ("bin", 2), ("sys", 3), ("sync", 4), ("games", 5), ("man", 6), ("lp", 7),
    ("mail", 8), ("news", 9), ("uucp", 10), ("proxy", 13), ("www-data", 33), ("backup", 34), ("list", 38),
    ("irc", 39), ("_apt", 42), ("nobody", 65534)]

/-- The groups that have names. -/
def groupNames : List (String × Nat) :=
  [("root", 0), ("daemon", 1), ("bin", 2), ("sys", 3), ("adm", 4), ("tty", 5), ("disk", 6), ("lp", 7),
    ("mail", 8), ("news", 9), ("uucp", 10), ("man", 12), ("proxy", 13), ("kmem", 15), ("dialout", 20),
    ("fax", 21), ("voice", 22), ("cdrom", 24), ("floppy", 25), ("tape", 26), ("sudo", 27), ("audio", 29),
    ("dip", 30), ("www-data", 33), ("backup", 34), ("operator", 37), ("list", 38), ("irc", 39),
    ("src", 40), ("shadow", 42), ("utmp", 43), ("video", 44), ("sasl", 45), ("plugdev", 46), ("staff", 50),
    ("games", 60), ("users", 100), ("nogroup", 65534)]

/-- What somebody with a number is called. -/
def nameOfNumber (names : List (String × Nat)) (n : Nat) : String :=
  ((names.find? (·.2 = n)).map (·.1)).getD n.repr

/-- The number of somebody who is called by a name or a number. -/
def numberOf? (names : List (String × Nat)) (text : String) : Option Nat :=
  (names.lookup text).or (decimal? text.toList)

/-- The new owner and group that a text names. -/
def ownership? (text : String) : Except String (Option Nat × Option Nat) :=
  let cs := text.toList
  let sign : Char := if cs.contains ':' then ':' else if (numberOf? users text).isNone then '.' else ':'
  let user := String.ofList (cs.takeWhile (· ≠ sign))
  let hasGroup := cs.contains sign
  let group := String.ofList ((cs.dropWhile (· ≠ sign)).drop 1)
  match user, numberOf? users user, hasGroup, group, numberOf? groupNames group with
  | "", _, true, "", _ => .ok (none, none)
  | "", _, true, _, some g => .ok (none, some g)
  | "", _, true, _, none => .error ("invalid group: " ++ Quoting.always text)
  | "", _, false, _, _ => .ok (none, none)
  | _, none, _, _, _ => .error ("invalid user: " ++ Quoting.always text)
  | _, some u, false, _, _ => .ok (some u, none)
  | _, some u, true, "", _ => .ok (some u, some u)
  | _, some u, true, _, some g => .ok (some u, some g)
  | _, some _, true, _, none => .error ("invalid group: " ++ Quoting.always text)

/-- Changes whose files are. -/
def changeOwner (tool : String) (s : Scene) : Deed :=
  reading s tool 1 [.flag 'c' "changes", .flag 'f' "silent", .longFlag "quiet", .flag 'v' "verbose",
    .flag 'R' "recursive", .flag 'h' "no-dereference", .longFlag "dereference", .longValued "from",
    .longValued "reference", .longFlag "preserve-root", .longFlag "no-preserve-root", .flag 'H' "H",
    .flag 'L' "L", .flag 'P' "P"] fun found operands =>
    let asked := found.has "reference"
    let names := if asked then operands else operands.tail
    let wanted : Except String (Option Nat × Option Nat) := match found.value? "reference" with
      | some name =>
        match s.files.node? (Path.ofString name) with
        | .ok node => .ok (some node.traits.owner, some node.traits.group)
        | .error e => .error ("failed to get attributes of " ++ Quoting.always name ++ ": " ++ e.reason)
      | none =>
        let text := operands.headD ""
        if tool = "chgrp" then
          match text, numberOf? groupNames text with
          | "", _ => .ok (none, none)
          | _, some g => .ok (none, some g)
          | _, none => .error ("invalid group: " ++ Quoting.always text)
        else ownership? text
    match operands with
    | [] => missingOperand s tool
    | first :: _ =>
      if names.isEmpty then complaint s (hint tool ("missing operand after " ++ Quoting.always first)) 1
      else
        match wanted with
        | .error text => complaint s (tool ++ ": " ++ text) 1
        | .ok (owner, group) =>
          let dotted := tool = "chown" && !asked && !first.toList.contains ':' &&
            first.toList.contains '.' && (numberOf? users first).isNone
          let start := if dotted then (Filing.start s).warn ("chown: warning: '.' should be ':': " ++
              Quoting.always first) else .start s
          let silent := found.has "silent" || found.has "quiet"
          let one (f : Filing) (name : String) : Filing :=
            match f.files.retrait (!found.has "no-dereference") (Path.ofString name) fun t =>
                { t with owner := owner.getD t.owner, group := group.getD t.group } with
            | .ok files => { f with files }
            | .error e =>
              if silent then { f with failed := true }
              else f.fail (tool ++ ": cannot access " ++ Quoting.always name ++ ": " ++ e.reason)
          let all := names.flatMap fun name =>
            if found.has "recursive" then pathsBelow s.files 64 name else [name]
          (all.foldl one start).deed s

/-! ## Single files -/

/-- Makes a file or a directory with a name of its own. -/
def mktemp (s : Scene) : Deed :=
  reading s "mktemp" 1 [.flag 'd' "directory", .flag 'u' "dry-run", .flag 'q' "quiet",
    .valued 'p' "p", ⟨none, "tmpdir", .perhaps⟩, .flag 't' "t", .longValued "suffix"] fun found operands =>
    let template := operands.headD "tmp.XXXXXXXXXX"
    let cs := template.toList
    let given := found.value? "suffix"
    let suffix : List Char := match given with
      | some text => text.toList
      | none => (cs.reverse.takeWhile (· ≠ 'X')).reverse
    let body := if given.isSome then cs else cs.take (cs.length - suffix.length)
    let marks := body.reverse.takeWhile (· = 'X')
    let failing (text : String) : Deed :=
      if found.has "quiet" then ofWrites s [] 1 else complaint s text 1
    let inside := operands.isEmpty || ["t", "p", "tmpdir"].any found.has
    if 1 < operands.length then complaint s (hint "mktemp" "too many templates") 1
    else if given.isSome && body.getLast? ≠ some 'X' then
      complaint s ("mktemp: with --suffix, template " ++ Quoting.value template ++ " must end in X") 1
    else if suffix.contains '/' then
      complaint s ("mktemp: invalid suffix " ++ Quoting.value (String.ofList suffix) ++
        ", contains directory separator") 1
    else if marks.length < 3 then
      complaint s ("mktemp: too few X's in template " ++ Quoting.value template) 1
    else if inside && found.has "t" && cs.contains '/' then
      complaint s ("mktemp: invalid template, " ++ Quoting.value template ++
        ", contains directory separator") 1
    else if inside && operands ≠ [] && !found.has "t" && cs.head? = some '/' then
      complaint s ("mktemp: invalid template, " ++ Quoting.value template ++
        "; with --tmpdir, it may not be absolute") 1
    else
      let usual := (s.environment.lookup "TMPDIR").getD "/tmp"
      let dir := if inside then
          (match (found.value? "p").or (found.value? "tmpdir") with
            | none | some "" => if usual = "" then "/tmp" else usual
            | some dir => dir) ++ "/"
        else ""
      let stem := dir ++ String.ofList (body.take (body.length - marks.length))
      let named (i : Nat) : String :=
        let digits := Nat.toDigits 26 i |>.map fun c =>
          Char.ofNat (97 + (Floating.digitValue? 16 c).getD 0)
        stem ++ String.ofList (List.replicate (marks.length - digits.length) 'a' ++ digits ++ suffix)
      let name := (((List.range 676).map named).find? fun name =>
        !s.files.pathExists (Path.ofString name)).getD (named 0)
      let p := Path.ofString name
      let f := Filing.start s
      let made := if found.has "dry-run" then .ok s.files
        else if found.has "directory" then
          (s.files.makeDir p).bind fun files => files.retrait true p fun t => { t with mode := 0o700 }
        else (s.files.write p []).bind fun files => files.retrait true p fun t => { t with mode := 0o600 }
      match made with
      | .ok files => ((f.made files true name)).deed s
      | .error e =>
        let what := if found.has "directory" then "directory" else "file"
        failing ("mktemp: failed to create " ++ what ++ " via template " ++
          Quoting.value (dir ++ template) ++ ": " ++ e.reason)

/-- Makes files longer or shorter. -/
def truncate (s : Scene) : Deed :=
  reading s "truncate" 1 [.flag 'c' "no-create", .valued 's' "size", .valued 'r' "reference",
    .flag 'o' "io-blocks"] fun found operands =>
    let text := (found.value? "size").getD ""
    let signs := ['+', '-', '<', '>', '/', '%']
    let sign? := text.toList.head?.bind fun c => if signs.contains c then some c else none
    let number := count? (if sign?.isSome then String.ofList (text.toList.drop 1) else text)
    let size (before : Nat) (n : Nat) : Nat :=
      match sign? with
      | some '+' => before + n
      | some '-' => before - n
      | some '<' => min before n
      | some '>' => max before n
      | some '/' => before / n * n
      | some _ => (before + n - 1) / n * n
      | none => n
    let reference := (found.value? "reference").map fun name =>
      (name, s.files.read (Path.ofString name))
    if found.has "size" && number.isNone then
      complaint s ("truncate: Invalid number: " ++ Quoting.value text) 1
    else if found.has "size" && (sign? = some '/' || sign? = some '%') && number = some 0 then
      complaint s "truncate: division by zero" 1
    else if found.has "size" && reference.isSome && sign?.isNone then
      complaint s (hint "truncate" "you must specify a relative '--size' with '--reference'") 1
    else if !found.has "size" && reference.isNone then
      complaint s (hint "truncate" "you must specify either '--size' or '--reference'") 1
    else
      match reference with
      | some (name, .error e) =>
        complaint s ("truncate: cannot stat " ++ Quoting.always name ++ ": " ++ e.reason) 1
      | reference =>
        let base := reference.bind fun (_, bytes) => bytes.toOption.map List.length
        let one (f : Filing) (name : String) : Filing :=
          let p := Path.ofString name
          let before := (f.files.read p).toOption.getD []
          if found.has "no-create" && !f.files.pathExists p then f
          else
            let length := match number with
              | some n => size (base.getD before.length) n
              | none => base.getD 0
            match f.files.write p (before.take length ++ List.replicate (length - before.length) 0) with
            | .ok files => { f with files }
            | .error e =>
              f.fail ("truncate: cannot open " ++ Quoting.always name ++ " for writing: " ++ e.reason)
        if operands.isEmpty then complaint s (hint "truncate" "missing file operand") 1
        else (operands.foldl one (.start s)).deed s

/-- Removes one file. -/
def unlink (s : Scene) : Deed :=
  reading s "unlink" 1 [] fun _ operands =>
    match operands with
    | [] => missingOperand s "unlink"
    | [name] =>
      match s.files.remove false false (Path.ofString name) with
      | .ok files => Filing.deed { Filing.start s with files } s
      | .error e =>
        complaint s ("unlink: cannot unlink " ++ Quoting.always name ++ ": " ++ e.reason) 1
    | _ :: extra :: _ => extraOperand s "unlink" extra

/-- Gives a file another name. -/
def link (s : Scene) : Deed :=
  reading s "link" 1 [] fun _ operands =>
    let fails (name target : String) (e : Files.Error) : Deed :=
      complaint s ("link: cannot create link " ++ Quoting.always target ++ " to " ++
        Quoting.always name ++ ": " ++ e.reason) 1
    match operands with
    | [] => missingOperand s "link"
    | [name] => complaint s (hint "link" ("missing operand after " ++ Quoting.value name)) 1
    | [name, target] =>
      match s.files.resolve false (Path.ofString name) with
      | .error e => fails name target e
      | .ok (.absent ..) => fails name target .noEntry
      | .ok (.found place node) =>
        match s.files.addName node place (Path.ofString target) with
        | .ok files => Filing.deed { Filing.start s with files } s
        | .error e => fails name target e
    | _ :: _ :: extra :: _ => extraOperand s "link" extra

end Scratchpad.Shell.Tools
