import Scratchpad.Shell.Pattern
import Scratchpad.Shell.Tools.Filing
import Scratchpad.Shell.Tools.Keys

/-!
# Tools that show what is known of files

One lists the names in directories, in an order that is asked for, and with what is known of each entry;
another one fills forms with what is known of files, and a third one adds up how much room they take.
-/

namespace Scratchpad.Shell.Tools

open Deed (complaint ofWrites told)
open Files (Name Node Path System)

/-! ## Facts -/

/-- How many bytes a directory is said to have. -/
def directorySize : Nat := 4096

def sizeOf (n : Node) : Nat :=
  match n with
  | .file _ contents => contents.length
  | .dir .. => directorySize
  | .link _ target => target.length
  | .pipe .. | .device _ => 0

/-- The room that a node takes, in units of a thousand and twenty-four bytes. -/
def roomOf (n : Node) : Nat :=
  match n with
  | .file _ contents => (contents.length + 4095) / 4096 * 4
  | .dir .. => 4
  | _ => 0

/-- A size in the largest unit in which it has a whole part, rounded up. -/
def humanSize (n : Nat) : String :=
  let units := ["", "K", "M", "G", "T", "P"]
  let power := (List.range 5).foldl (fun p i => if Nat.pow 1024 (i + 1) ≤ n then i + 1 else p) 0
  if power = 0 then n.repr
  else
    let unit := Nat.pow 1024 power
    let tenths := (n * 10 + unit - 1) / unit
    let whole := (n + unit - 1) / unit
    if tenths < 100 then (tenths / 10).repr ++ "." ++ (tenths % 10).repr ++ units.getD power ""
    else if whole = 1024 && power < 5 then "1.0" ++ units.getD (power + 1) ""
    else whole.repr ++ units.getD power ""

/-- The letter that stands behind the name of an entry of its kind. -/
def classMark (n : Node) : String :=
  match n with
  | .dir .. => "/"
  | .link .. => "@"
  | .pipe .. => "|"
  | .file t _ => if t.mode &&& 0o111 = 0 then "" else "*"
  | .device _ => ""

def textOf (name : Name) : String :=
  String.ofList (Text.Utf8.lossy name)

/-! ## Lists of names -/

/-- An entry in a list: its name, its path, and what stands there. -/
structure Listed where
  name : String
  path : String
  node : Node

/-- What an entry's name is sorted by. -/
def extensionPart (name : String) : Bytes :=
  let cs := name.toList
  let behind := (cs.reverse.takeWhile (· ≠ '.')).reverse
  if behind.length = cs.length then [] else Bytes.ofString (String.ofList ('.' :: behind))

/-- The order that options ask for. -/
def listOrder (found : Options) : String :=
  (found.filterMap fun (name, value) =>
    match name with
    | "t" => some "time"
    | "S" => some "size"
    | "X" => some "extension"
    | "v" => some "version"
    | "U" | "f" => some "none"
    | "sort" => some value
    | _ => none).getLastD "name"

/-- Sorts entries. -/
def sortListed (found : Options) (entries : List Listed) : List Listed :=
  let byName (a b : Listed) : Ordering := compare (Bytes.ofString a.name) (Bytes.ofString b.name)
  let order (a b : Listed) : Ordering :=
    match listOrder found with
    | "time" =>
      let time (l : Listed) : Int :=
        if found.has "u" then l.node.traits.used.getD l.node.traits.changed else l.node.traits.changed
      (compare (time b) (time a)).then (byName a b)
    | "size" => (compare (sizeOf b.node) (sizeOf a.node)).then (byName a b)
    | "extension" => (compare (extensionPart a.name) (extensionPart b.name)).then (byName a b)
    | "version" => (Version.order (Bytes.ofString a.name) (Bytes.ofString b.name)).then (byName a b)
    | "width" => (compare a.name.length b.name.length).then (byName a b)
    | _ => byName a b
  if listOrder found = "none" then entries
  else
    let sorted := entries.mergeSort fun a b => order a b != .gt
    let sorted := if found.has "reverse" then
        entries.mergeSort fun a b => order b a != .gt
      else sorted
    if found.has "group-directories-first" then
      sorted.filter (·.node.isDir) ++ sorted.filter (!·.node.isDir)
    else sorted

/-- The name of an entry as it is shown. -/
def shownName (found : Options) (name : String) : String :=
  let style := (found.filterMap fun (option, value) =>
    match option with
    | "quote-name" => some "c"
    | "escape" => some "escape"
    | "literal" => some "literal"
    | "quoting-style" => some value
    | _ => none).getLastD "literal"
  let escapedWith (quote : Bool) : String :=
    String.join ((Bytes.ofString name).map fun b =>
      if b = 0x5C then "\\\\"
      else if quote && b = 0x22 then "\\\""
      else if !quote && b = 0x20 then "\\ "
      else if Quoting.isPrintable b then Quoting.printed b
      else Quoting.escaped b)
  match style with
  | "c" => "\"" ++ escapedWith true ++ "\""
  | "escape" => escapedWith false
  | "shell" | "shell-escape" => Quoting.name name
  | "shell-always" | "shell-escape-always" => Quoting.always name
  | _ =>
    if found.has "hide-control-chars" then
      String.ofList (name.toList.map fun c => if c.toNat < 32 || c.toNat = 127 then '?' else c)
    else name

/-- The colour of an entry, if it has one. -/
def colourOf (n : Node) : Option String :=
  let mode := n.traits.mode
  match n with
  | .dir .. =>
    some (if mode &&& 0o1002 = 0o1002 then "30;42" else if mode &&& 2 ≠ 0 then "34;42"
      else if mode &&& 0o1000 ≠ 0 then "37;44" else "01;34")
  | .link .. => some "01;36"
  | .pipe .. => some "33"
  | .device _ => some "01;33"
  | .file .. =>
    if mode &&& 0o4000 ≠ 0 then some "37;41"
    else if mode &&& 0o2000 ≠ 0 then some "30;43"
    else if mode &&& 0o111 ≠ 0 then some "01;32"
    else none

/-- Terminals that know colours, by how their names begin. -/
def colourTerminals : List String :=
  ["xterm", "linux", "screen", "tmux", "rxvt", "vt100", "vt220", "ansi", "cygwin", "konsole", "Eterm",
    "putty", "gnome", "alacritty", "foot", "st"]

/-- Are names shown in colours? They are if that is asked for and somebody can see them. -/
def isColoured (s : Scene) (found : Options) : Bool :=
  let terminal := (s.environment.lookup "TERM").getD ""
  let isKnown := (s.environment.lookup "LS_COLORS").any (· ≠ "") ||
    (s.environment.lookup "COLORTERM").any (· ≠ "") || colourTerminals.any fun known => terminal.startsWith known
  isKnown && (found.value? "color").any fun text => ["", "always", "yes", "force"].contains text

/-- What stands behind the name of an entry. -/
def markOf (found : Options) (node : Node) : String :=
  let style := (found.filterMap fun (option, value) =>
    match option with
    | "classify" => if value = "never" || value = "auto" then none else some "classify"
    | "p" => some "slash"
    | "file-type" => some "file-type"
    | "indicator-style" => some value
    | _ => none).getLastD "none"
  match style with
  | "classify" => classMark node
  | "file-type" => if (node matches .file ..) then "" else classMark node
  | "slash" => if node.isDir then "/" else ""
  | _ => ""

/-- The name of an entry with all that belongs to it; in a long list a link shows where it leads. -/
def fullName (s : Scene) (found : Options) (long : Bool) (l : Listed) : String :=
  let name := shownName found l.name
  let name := match isColoured s found, colourOf l.node with
    | true, some c => "\x1b[" ++ c ++ "m" ++ name ++ "\x1b[0m"
    | _, _ => name
  match long, l.node with
  | true, .link _ target =>
    let behind := match s.files.node? (Path.ofString l.path) with
      | .ok node => markOf found node
      | .error _ => ""
    name ++ " -> " ++ shownName found (textOf target) ++ behind
  | _, node => name ++ markOf found node

/-- How wide an entry is in a list. -/
def widthOf (found : Options) (l : Listed) : Nat :=
  (shownName found l.name).length + (markOf found l.node).length

/-- Blanks and tabs from one column to another. -/
def spacing (tab : Nat) : Nat → Nat → Nat → String
  | 0, _, _ => ""
  | fuel + 1, start, goal =>
    if goal ≤ start then ""
    else if tab ≠ 0 && (start + 1) / tab < goal / tab then
      "\t" ++ spacing tab fuel (start + (tab - start % tab)) goal
    else " " ++ spacing tab fuel (start + 1) goal

/-- The widths of the columns when there are so many of them. -/
def columnWidths (across : Bool) (columns : Nat) (widths : List Nat) : List Nat :=
  let rows := (widths.length + columns - 1) / columns
  let indexed := widths.zipIdx.map fun (w, i) => (w, if across then i % columns else i / max 1 rows)
  (List.range columns).map fun c =>
    ((indexed.filter (·.2 = c)).map (·.1)).foldl max 0 + (if c + 1 = columns then 0 else 2)

/-- Names in as many columns as a line has room for. -/
def inColumns (across : Bool) (line tab : Nat) (names : List (String × Nat)) : String :=
  let widths := names.map (·.2)
  let total (columns : Nat) : Nat :=
    ((columnWidths across columns widths).map fun w => max w (if columns = 1 then 0 else 3)).foldl (· + ·) 0
  let fits (columns : Nat) : Bool := total columns < line
  let most := min names.length (max 1 ((line + 2) / 3))
  let columns := (((List.range most).map (· + 1)).reverse.find? fits).getD 1
  let rows := (names.length + columns - 1) / columns
  let widths := columnWidths across columns widths
  let cell (r c : Nat) : Option (String × Nat) :=
    names[if across then r * columns + c else c * rows + r]?
  let row (r : Nat) : String :=
    ((List.range columns).foldl (fun (acc : String × Nat) c =>
      match cell r c with
      | none => acc
      | some (name, width) =>
        let start := (widths.take c).foldl (· + ·) 0
        (acc.1 ++ spacing tab 200 acc.2 start ++ name, start + width)) ("", 0)).1 ++ "\n"
  String.join ((List.range rows).map row)

/-- Names behind each other with commas. -/
def withCommas (line : Nat) (names : List (String × Nat)) : String :=
  let (text, _) := names.foldl (fun (acc : String × Nat) (name, width) =>
    if acc.1 = "" then (name, width)
    else if line = 0 || acc.2 + width + 2 ≤ line then (acc.1 ++ ", " ++ name, acc.2 + 2 + width)
    else (acc.1 ++ ",\n" ++ name, width)) ("", 0)
  if names.isEmpty then "" else text ++ "\n"

/-- When an entry was changed, as a list shows it. -/
def listedTime (s : Scene) (found : Options) (node : Node) : String :=
  let time := if found.has "u" && !found.has "c" then node.traits.used.getD node.traits.changed
    else node.traits.changed
  let style := (found.filterMap fun (option, value) =>
    match option with
    | "time-style" => some value
    | "full-time" => some "full-iso"
    | _ => none).getLastD "locale"
  let seconds := time / 1000000000
  let isRecent := seconds ≤ s.now.1 && s.now.1 - 15778476 < seconds
  let form : String := match style with
    | "full-iso" => "%Y-%m-%d %H:%M:%S.%N %z"
    | "long-iso" => "%Y-%m-%d %H:%M"
    | "iso" => if isRecent then "%m-%d %H:%M" else "%Y-%m-%d "
    | style =>
      if style.startsWith "+" then
        let parts := (String.ofList (style.toList.drop 1)).splitOn "\n"
        if isRecent then parts.getD 1 (parts.headD "") else parts.headD ""
      else if isRecent then "%b %e %H:%M" else "%b %e  %Y"
  Time.Form.render ⟨seconds, time % 1000000000, s.zone⟩ true form

/-- A size in the units that options ask for. -/
def listedSize (found : Options) (n : Nat) : String :=
  if found.has "human-readable" then humanSize n
  else
    match found.value? "block-size" with
    | some text =>
      match count? text with
      | some unit => ((n + unit - 1) / max 1 unit).repr ++
          (if text.toList.head?.any Char.isDigit then "" else text)
      | none =>
        match unit? text.toList with
        | some unit => ((n + unit - 1) / max 1 unit).repr ++ text
        | none => n.repr
    | none => n.repr

/-- The room that entries take, in the units that options ask for. -/
def listedRoom (found : Options) (n : Nat) : String :=
  if found.has "human-readable" then humanSize (n * 1024)
  else
    match (found.value? "block-size").bind count? with
    | some unit => ((n * 1024 + unit - 1) / max 1 unit).repr
    | none => n.repr

/-- A number that stands for an entry; it says nothing else. -/
def identityOf (l : Listed) : Nat :=
  match l.node.traits.number with
  | some n => 1000000 + n
  | none => (Bytes.ofString l.path).foldl (fun n b => (n * 31 + b.toNat) % 1000003) 7

/-- The lines of entries with all that is known of them. -/
def longLines (s : Scene) (found : Options) (entries : List Listed) : List String :=
  let nameOf (names : List (String × Nat)) (n : Nat) : String :=
    if found.has "numeric-uid-gid" then n.repr else nameOfNumber names n
  let cells := entries.map fun l =>
    let t := l.node.traits
    let size := match l.node with
      | .device _ => "1, 3"
      | node => listedSize found (sizeOf node)
    ((Files.Permissions.shown l.node, (s.files.nameCount l.node).repr),
      (nameOf users t.owner, nameOf groupNames t.group), size, l)
  let widest (f : Listed → String) : Nat := (entries.map fun l => (f l).length).foldl max 0
  let links := (cells.map fun c => c.1.2.length).foldl max 0
  let owners := (cells.map fun c => c.2.1.1.length).foldl max 0
  let groups := (cells.map fun c => c.2.1.2.length).foldl max 0
  let sizes := (cells.map fun c => c.2.2.1.length).foldl max 0
  let rooms := widest fun l => listedRoom found (roomOf l.node)
  let numbers := widest fun l => (identityOf l).repr
  cells.map fun ((mode, count), (owner, group), size, l) =>
    (if found.has "inode" then padLeft numbers (identityOf l).repr ++ " " else "") ++
      (if found.has "size" then padLeft rooms (listedRoom found (roomOf l.node)) ++ " " else "") ++
      mode ++ " " ++ padLeft links count ++ " " ++
      (if found.has "g" then "" else padRight owners owner ++ " ") ++
      (if found.has "no-group" || found.has "o" then "" else padRight groups group ++ " ") ++
      padLeft sizes size ++ " " ++ listedTime s found l.node ++ " " ++ fullName s found true l

/-- How a list is laid out. -/
def listLayout (found : Options) : String :=
  (found.filterMap fun (name, value) =>
    match name with
    | "l" | "numeric-uid-gid" | "g" | "o" | "full-time" => some "long"
    | "1" => some "single"
    | "C" => some "vertical"
    | "x" => some "across"
    | "m" => some "commas"
    | "format" =>
      some (match value with
        | "verbose" => "long"
        | "single-column" => "single"
        | "horizontal" => "across"
        | value => value)
    | _ => none).foldl (fun layout next => if layout = "long" && next = "single" then layout else next) "single"

/-- A list of entries. -/
def listText (s : Scene) (found : Options) (entries : List Listed) : String :=
  let ending := if found.has "zero" then "\x00" else "\n"
  let line := ((found.value? "width").bind fun text => decimal? text.toList).getD
    (((s.environment.lookup "COLUMNS").bind fun text => decimal? text.toList).getD 80)
  let tab := ((found.value? "tabsize").bind fun text => decimal? text.toList).getD 8
  let widest (f : Listed → String) : Nat := (entries.map fun l => (f l).length).foldl max 0
  let rooms := widest fun l => listedRoom found (roomOf l.node)
  let numbers := widest fun l => (identityOf l).repr
  let front (l : Listed) : String :=
    (if found.has "inode" then padLeft numbers (identityOf l).repr ++ " " else "") ++
      (if found.has "size" then padLeft rooms (listedRoom found (roomOf l.node)) ++ " " else "")
  let named := entries.map fun l =>
    (front l ++ fullName s found false l, (front l).length + widthOf found l)
  match listLayout found with
  | "long" => String.join ((longLines s found entries).map (· ++ ending))
  | "vertical" => inColumns false line tab named
  | "across" => inColumns true line tab named
  | "commas" => withCommas line named
  | _ => String.join (named.map fun (name, _) => name ++ ending)

/-- The entries of a directory that are shown, in order. -/
def entriesIn (s : Scene) (found : Options) (path : String) (node : Node) : List Listed :=
  let all := found.has "all" || found.has "f"
  let isHidden (name : String) : Bool :=
    if all || found.has "almost-all" then false
    else name.startsWith "." || (found.all "hide").any fun pattern => Pattern.fits pattern name
  let isIgnored (name : String) : Bool :=
    ((found.all "ignore").any fun pattern => Pattern.fits pattern name && !(name.startsWith ".")) ||
      (found.has "ignore-backups" && name.endsWith "~")
  let inside (name : String) : String := path ++ (if path.endsWith "/" then "" else "/") ++ name
  let follows := found.has "dereference"
  let listed (name : Name) (node : Node) : Listed :=
    let text := textOf name
    let node := if follows then (s.files.node? (Path.ofString (inside text))).toOption.getD node else node
    ⟨text, inside text, node⟩
  let dots : List Listed := if all then
      [⟨".", path, node⟩, ⟨"..", inside "..", (s.files.node? (Path.ofString (inside ".."))).toOption.getD node⟩]
    else []
  sortListed found (dots ++ ((node.entries.map fun (name, n) => listed name n).filter fun l =>
    !isHidden l.name && !isIgnored l.name))

/-- The blocks of a list: the entries of a directory and, if asked, of those in it. The fuel bounds
how deep they lie. -/
def listBlocks (s : Scene) (found : Options) : Nat → String → Node → List (String × List Listed)
  | 0, _, _ => []
  | fuel + 1, path, node =>
    let shown := entriesIn s found path node
    let below := if found.has "recursive" then
        shown.flatMap fun l =>
          if l.node.isDir && l.name ≠ "." && l.name ≠ ".." then listBlocks s found fuel l.path l.node else []
      else []
    (path, shown) :: below

def lsForms : List OptionForm :=
  [.flag 'a' "all", .flag 'A' "almost-all", .flag 'd' "directory", ⟨none, "classify", .perhaps⟩,
    .flag 'F' "classify", .flag 'p' "p", .longFlag "file-type", .longValued "indicator-style",
    .flag 'R' "recursive", .flag 'r' "reverse", ⟨none, "color", .perhaps⟩, .longValued "format",
    .longValued "sort", .longValued "time", .longValued "time-style", .longFlag "full-time",
    .flag 's' "size", .flag 'i' "inode", .flag 'h' "human-readable", .longFlag "si", .flag 'Q' "quote-name",
    .flag 'b' "escape", .flag 'N' "literal", .flag 'q' "hide-control-chars", .longFlag "show-control-chars",
    .longValued "quoting-style", .flag 'n' "numeric-uid-gid", .flag 'G' "no-group", .flag 'L' "dereference",
    .flag 'H' "dereference-command-line", .flag 'B' "ignore-backups", .valued 'I' "ignore",
    .longValued "hide", .valued 'w' "width", .valued 'T' "tabsize", .longFlag "group-directories-first",
    .longValued "block-size", .flag 'k' "kibibytes", .longFlag "zero", .flag 'Z' "context",
    .longFlag "author", ⟨none, "hyperlink", .perhaps⟩, .flag 'D' "dired"] ++
    OptionForm.flags "1CxlUftScugmoXv"

/-- The words that options of a list take. -/
def lsWords : List (String × List (List String × String)) :=
  let same (names : List String) : List (List String × String) := names.map fun name => ([name], name)
  [("sort", same ["none", "time", "size", "extension", "version", "width"]),
    ("format", [(["verbose", "long"], "long"), (["commas"], "commas"), (["horizontal", "across"], "across"),
      (["vertical"], "vertical"), (["single-column"], "single")]),
    ("indicator-style", same ["none", "slash", "file-type", "classify"]),
    ("quoting-style", same ["literal", "shell", "shell-always", "shell-escape", "shell-escape-always", "c",
      "c-maybe", "escape", "locale", "clocale"])]

/-- Lists the names in directories. -/
def ls (s : Scene) : Deed :=
  reading s "ls" 2 lsForms fun found operands =>
    let checked := found.map fun (name, value) =>
      match lsWords.lookup name with
      | some words => (chosenAmong words "ls" ("--" ++ name) value).map fun value => (name, value)
      | none => .ok (name, value)
    match checked.findSome? fun c => (match c with
      | .error text => some text
      | .ok _ => none) with
    | some text => complaint s text 2
    | none =>
    let found : Options := checked.filterMap Except.toOption
    let names := if operands.isEmpty then ["."] else operands
    let long := listLayout found = "long"
    let isWhole := found.has "directory"
    let look (name : String) : Except Files.Error Node :=
      let p := Path.ofString name
      let own := s.files.entry? p
      let followed := s.files.node? p
      if found.has "dereference" then followed
      else if found.has "dereference-command-line" then followed.orElseLazy fun _ => own
      else if isWhole || long || found.has "classify" then own
      else
        match followed with
        | .ok node => if node.isDir then .ok node else own
        | .error _ => own
    let looked := names.map fun name => (name, look name)
    let errors := looked.filterMap fun (name, found) =>
      match found with
      | .error e => some (told ("ls: cannot access " ++ Quoting.always name ++ ": " ++ e.reason))
      | .ok _ => none
    let there : List Listed := sortListed found (looked.filterMap fun (name, node) =>
      node.toOption.map fun node => ⟨name, name, node⟩)
    let alone := there.filter fun l => isWhole || !l.node.isDir
    let blocks := (there.filter fun l => !isWhole && l.node.isDir).flatMap fun l =>
      listBlocks s found 64 l.path l.node
    let titled := 1 < names.length || found.has "recursive"
    let total (entries : List Listed) : String :=
      if long || found.has "size" then
        "total " ++ listedRoom found ((entries.map fun l => roomOf l.node).foldl (· + ·) 0) ++ "\n"
      else ""
    let shown := (if alone.isEmpty then [] else [listText s found alone]) ++ blocks.map fun (path, entries) =>
      (if titled then shownName found path ++ ":\n" else "") ++ total entries ++ listText s found entries
    let text := "\n".intercalate shown
    let text := match text.splitOn "\x1b[" with
      | first :: second :: rest =>
        if isColoured s found then "\x1b[".intercalate ((first ++ "\x1b[0m") :: second :: rest) else text
      | _ => text
    ofWrites s (errors ++ [(.out, Bytes.ofString text)]) (if errors.isEmpty then 0 else 2)

/-! ## Forms with facts -/

/-- What a tool calls the kind of a file. -/
def kindOfFile (n : Node) : String :=
  match n with
  | .file _ [] => "regular empty file"
  | .file .. => "regular file"
  | .dir .. => "directory"
  | .link .. => "symbolic link"
  | .pipe .. => "fifo"
  | .device _ => "character special file"

/-- The bits that stand for the kind of a file in front of its permissions. -/
def kindBits (n : Node) : Nat :=
  match n with
  | .file .. => 0o100000
  | .dir .. => 0o040000
  | .link .. => 0o120000
  | .pipe .. => 0o010000
  | .device _ => 0o020000

/-- A time with all its digits. -/
def wholeTime (s : Scene) (time : Int) : String :=
  Time.Form.render ⟨time / 1000000000, time % 1000000000, s.zone⟩ true "%Y-%m-%d %H:%M:%S.%N %z"

/-- A fact about a file: whether it is a number, and how it is shown; `sharp` asks for a number with its
base. -/
def factOf? (s : Scene) (l : Listed) (sharp : Bool) (c : Char) : Option (Bool × String) :=
  let t := l.node.traits
  let used := t.used.getD t.changed
  let seconds (time : Int) : String := toString (time / 1000000000)
  let octal (n : Nat) : String := (if sharp then "0" else "") ++ String.ofList (Nat.toDigits 8 n)
  match c with
  | 'a' => some (true, octal t.mode)
  | 'A' => some (false, Files.Permissions.shown l.node)
  | 'b' => some (true, (roomOf l.node * 2).repr)
  | 'B' => some (true, "512")
  | 'C' => some (false, "?")
  | 'd' => some (true, "65025")
  | 'D' => some (true, "fe01")
  | 'f' => some (true, String.ofList (Nat.toDigits 16 (kindBits l.node + t.mode)))
  | 'F' => some (false, kindOfFile l.node)
  | 'g' => some (true, t.group.repr)
  | 'G' => some (false, nameOfNumber groupNames t.group)
  | 'h' => some (true, (s.files.nameCount l.node).repr)
  | 'i' => some (true, (identityOf l).repr)
  | 'm' => some (false, "/")
  | 'n' => some (false, l.name)
  | 'N' =>
    some (false, Quoting.always l.name ++ (match l.node with
      | .link _ target => " -> " ++ Quoting.always (textOf target)
      | _ => ""))
  | 'o' => some (true, "4096")
  | 's' => some (true, (sizeOf l.node).repr)
  | 'r' => some (true, (if (l.node matches .device _) then 259 else 0).repr)
  | 'R' => some (true, if (l.node matches .device _) then "103" else "0")
  | 't' => some (true, if (l.node matches .device _) then "1" else "0")
  | 'T' => some (true, if (l.node matches .device _) then "3" else "0")
  | 'u' => some (true, t.owner.repr)
  | 'U' => some (false, nameOfNumber users t.owner)
  | 'w' => some (false, wholeTime s t.changed)
  | 'W' => some (true, seconds t.changed)
  | 'x' => some (false, wholeTime s used)
  | 'X' => some (true, seconds used)
  | 'y' | 'z' => some (false, wholeTime s t.changed)
  | 'Y' | 'Z' => some (true, seconds t.changed)
  | _ => none

/-- A form filled with the facts about a file; the fuel bounds its characters. -/
def fillForm (s : Scene) (l : Listed) (escapes : Bool) : Nat → List Char → String
  | 0, _ => ""
  | fuel + 1, cs =>
    match cs with
    | [] => ""
    | '%' :: '%' :: rest => "%" ++ fillForm s l escapes fuel rest
    | '%' :: rest =>
      let flags := rest.takeWhile ['-', '+', ' ', '#', '0', '\''].contains
      let behind := rest.drop flags.length
      let width := behind.takeWhile Char.isDigit
      let behind := behind.drop width.length
      let precision : List Char := match behind with
        | '.' :: r => '.' :: r.takeWhile Char.isDigit
        | _ => []
      let behind := behind.drop precision.length
      match behind with
      | [] => "%" ++ (if rest = [] then "" else String.ofList rest)
      | c :: after =>
        let text := match factOf? s l (flags.contains '#') c with
          | none => "?"
          | some (isNumber, text) =>
            let n := (decimal? width).getD 0
            let text := if flags.contains '+' && isNumber then "+" ++ text else text
            if flags.contains '-' then padRight n text
            else if flags.contains '0' && isNumber then
              String.ofList (List.replicate (n - text.length) '0') ++ text
            else padLeft n text
        text ++ fillForm s l escapes fuel after
    | '\\' :: rest =>
      if !escapes then "\\" ++ fillForm s l escapes fuel rest
      else
        match rest with
        | [] => "\\"
        | c :: after =>
          if Files.Permissions.isOctal c then
            let digits := (rest.takeWhile Files.Permissions.isOctal).take 3
            String.singleton (Char.ofNat (Files.Permissions.octal digits % 256)) ++
              fillForm s l escapes fuel (rest.drop digits.length)
          else if c = 'x' && after.head?.any (fun d => (Floating.digitValue? 16 d).isSome) then
            let digits := (after.takeWhile fun d => (Floating.digitValue? 16 d).isSome).take 2
            let n := digits.foldl (fun n d => n * 16 + (Floating.digitValue? 16 d).getD 0) 0
            String.singleton (Char.ofNat n) ++ fillForm s l escapes fuel (after.drop digits.length)
          else
            let shown := match c with
              | 'a' => "\x07"
              | 'b' => "\x08"
              | 'e' => "\x1b"
              | 'f' => "\x0c"
              | 'n' => "\n"
              | 'r' => "\r"
              | 't' => "\t"
              | 'v' => "\x0b"
              | c => String.singleton c
            shown ++ fillForm s l escapes fuel after
    | c :: rest => String.singleton c ++ fillForm s l escapes fuel rest

/-- The form in which everything is said. -/
def wholeForm (node : Node) : String :=
  "  File: " ++ (if node.isLink then "%N" else "%n") ++ "\n  Size: %-10s\tBlocks: %-10b IO Block: %-6o %F\n" ++
    "Device: 254,1\tInode: %-10i  Links: %h\n" ++
    "Access: (%04a/%10.10A)  Uid: (%5u/%8U)   Gid: (%5g/%8G)\nAccess: %x\nModify: %y\nChange: %z\n" ++
    " Birth: %w"

/-- Says what is known of files. -/
def stat (s : Scene) : Deed :=
  reading s "stat" 1 [.valued 'c' "format", .longValued "printf", .flag 'L' "dereference",
    .flag 'f' "file-system", .flag 't' "terse", .longValued "cached"] fun found operands =>
    let answer (name : String) : Outlet × Bytes :=
      let p := Path.ofString name
      match (if found.has "dereference" then s.files.node? p else s.files.entry? p) with
      | .error e => told ("stat: cannot statx " ++ Quoting.always name ++ ": " ++ e.reason)
      | .ok node =>
        let l : Listed := ⟨name, name, node⟩
        let given := (found.filter fun (option, _) => option = "format" || option = "printf").getLast?
        let (escapes, form, ending) : Bool × String × String := match given with
          | some ("printf", form) => (true, form, "")
          | some (_, form) => (false, form, "\n")
          | none =>
            (false, if found.has "terse" then "%n %s %b %f %u %g %D %i %h %t %T %X %Y %Z %W %o"
              else wholeForm node, "\n")
        (.out, Bytes.ofString (fillForm s l escapes (form.length + 1) form.toList ++ ending))
    if operands.isEmpty then missingOperand s "stat"
    else
      let writes := operands.map answer
      ofWrites s writes (if writes.any (·.1 = .err) then 1 else 0)

/-! ## Room -/

/-- The room that is taken at a path and in it: for every directory its path, how deep it lies and what it
takes, with that of everything at the end. With `apparent` bytes are counted, else the room on a disk. -/
def roomsBelow (apparent everything : Bool) : Nat → Nat → String → Node → List (String × Nat × Nat) × Nat
  | 0, _, _, _ => ([], 0)
  | fuel + 1, depth, path, node =>
    let own := if apparent then sizeOf node else roomOf node * 1024
    match node with
    | .dir _ entries =>
      let below := entries.map fun (name, n) =>
        roomsBelow apparent everything fuel (depth + 1)
          (path ++ (if path.endsWith "/" then "" else "/") ++ textOf name) n
      let total := own + (below.map (·.2)).foldl (· + ·) 0
      (below.flatMap (·.1) ++ [(path, depth, total)], total)
    | _ => (if everything || depth = 0 then [(path, depth, own)] else [], own)

/-- Adds up how much room files take. -/
def du (s : Scene) : Deed :=
  reading s "du" 1 [.flag 'a' "all", .flag 's' "summarize", .flag 'c' "total", .flag 'h' "human-readable",
    .flag 'b' "bytes", .flag 'k' "k", .flag 'm' "m", .flag '0' "null", .valued 'd' "max-depth",
    .longFlag "apparent-size", .flag 'S' "separate-dirs", .flag 'x' "one-file-system", .flag 'L' "dereference",
    .flag 'l' "count-links", .valued 'B' "block-size", .flag 'D' "dereference-args", .flag 'H' "H",
    .flag 'P' "no-dereference"] fun found operands =>
    let apparent := found.has "bytes" || found.has "apparent-size"
    let names := if operands.isEmpty then ["."] else operands
    let ending := if found.has "null" then "\x00" else "\n"
    let unit := if found.has "bytes" then 1 else if found.has "m" then 1048576
      else ((found.value? "block-size").bind count?).getD 1024
    let shown (n : Nat) : String :=
      if found.has "human-readable" then humanSize n else ((n + unit - 1) / max 1 unit).repr
    let line (n : Nat) (path : String) : String := shown n ++ "\t" ++ path ++ ending
    let deepest : Nat := if found.has "summarize" then 0
      else ((found.value? "max-depth").bind fun text => decimal? text.toList).getD 1000
    let looked := names.map fun name => (name, s.files.entry? (Path.ofString name))
    let writes := looked.map fun (name, node) =>
      match node with
      | .error e => told ("du: cannot access " ++ Quoting.always name ++ ": " ++ e.reason)
      | .ok node =>
        let (rows, _) := roomsBelow apparent (found.has "all") 64 0 name node
        (.out, Bytes.ofString (String.join ((rows.filter fun (_, depth, _) => depth ≤ deepest).map
          fun (path, _, n) => line n path)))
    let total := (looked.map fun (name, node) =>
      match node with
      | .ok node => (roomsBelow apparent false 64 0 name node).2
      | .error _ => 0).foldl (· + ·) 0
    let last : List (Outlet × Bytes) :=
      if found.has "total" then [(.out, Bytes.ofString (line total "total"))] else []
    ofWrites s (writes ++ last) (if writes.any (·.1 = .err) then 1 else 0)

end Scratchpad.Shell.Tools
