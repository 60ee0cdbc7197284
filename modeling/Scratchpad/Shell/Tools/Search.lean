import Scratchpad.Shell.Tools.SearchView

/-!
# Searching

The tool that finds the lines in which some patterns occur: what it looks for, in which files, and how
it ends.
-/

namespace Scratchpad.Shell.Tools

open Deed (complaint ofWrites passing told waiting)
open Files (Path)

/-- The options, in the order in which they are told when one is cut too short. A digit is a part of
the number of lines around a selected one. -/
def grepForms : List OptionForm :=
  [.flag 'G' "basic-regexp", .flag 'E' "extended-regexp", .longFlag "fixed-regexp",
    .flag 'F' "fixed-strings", .flag 'P' "perl-regexp", .valued 'A' "after-context",
    .valued 'B' "before-context", .longValued "binary-files", .longFlag "line-buffered",
    .flag 'b' "byte-offset", .valued 'C' "context", ⟨none, "color", .perhaps⟩,
    ⟨none, "colour", .perhaps⟩, .flag 'c' "count", .valued 'D' "devices", .valued 'd' "directories",
    .longValued "exclude", .longValued "exclude-from", .longValued "exclude-dir", .valued 'f' "file",
    .flag 'l' "files-with-matches", .flag 'L' "files-without-match", .longValued "group-separator",
    .longValued "include", .flag 'i' "ignore-case", .flag 'y' "ignore-case",
    .longFlag "no-ignore-case", .flag 'T' "initial-tab", .longValued "label", .flag 'n' "line-number",
    .flag 'x' "line-regexp", .valued 'm' "max-count", .flag 'h' "no-filename",
    .longFlag "no-group-separator", .flag 's' "no-messages", .flag 'Z' "null", .flag 'z' "null-data",
    .flag 'o' "only-matching", .flag 'q' "quiet", .flag 'r' "recursive",
    .flag 'R' "dereference-recursive", .valued 'e' "regexp", .flag 'v' "invert-match",
    .longFlag "silent", .flag 'a' "text", .flag 'U' "binary", .flag 'H' "with-filename",
    .flag 'w' "word-regexp", ⟨some 'I', "I", .nothing⟩] ++ OptionForm.flags "0123456789"

/-- Options with the digits that follow each other as one number of lines. -/
def withCounts (found : Options) : Options :=
  (found.foldl (fun (acc : Options × Bool) (name, value) =>
    if name.length = 1 && name.toList.all Char.isDigit then
      match acc with
      | ((_, text) :: done, true) => (("context", text ++ name) :: done, true)
      | (done, _) => (("context", name) :: done, true)
    else ((name, value) :: acc.1, false)) ([], false)).1.reverse

def usageOf (tool arguments : String) : String :=
  "Usage: " ++ tool ++ " " ++ arguments ++ "\nTry '" ++ tool ++ " --help' for more information."

def grepUsage : String := usageOf "grep" "[OPTION]... PATTERNS [FILE]..."

def matchers : List String :=
  ["extended-regexp", "fixed-strings", "basic-regexp", "perl-regexp"]

def isIgnoringCase (found : Options) : Bool :=
  (found.reverse.map (·.1)).find? (fun name => name = "ignore-case" || name = "no-ignore-case") =
    some "ignore-case"

/-- A pattern that has to match a whole line or whole words, if that is asked for. -/
def bounded (found : Options) (p : Pattern) : Pattern :=
  if found.has "line-regexp" then .seq (.edge .start) (.seq p (.edge .finish))
  else if found.has "word-regexp" then .seq (.edge .afterNoWord) (.seq p (.edge .beforeNoWord))
  else p

/-- How any of some texts are found, as options ask for it; nothing is if there is no text. It comes with
what there is to warn of. -/
def questOf (found : Options) (texts : List Bytes) : Except String (Option Quest × List String) := do
  let asked := (found.reverse.map (·.1)).filter matchers.contains
  if asked.contains "perl-regexp" then
    if asked.any (· ≠ "perl-regexp") then throw "conflicting matchers specified"
    match texts with
    | [text] =>
      match Ordered.pattern { anyCase := isIgnoringCase found } text with
      | .ok p => return (some (.preferred (bounded found p)), [])
      | .error f => throw f.message
    | [] => return (none, [])
    | _ => throw "the -P option only supports a single pattern"
  else
    let style? := asked.head?
    let branches ← texts.mapM fun text =>
      (match style? with
        | some "fixed-strings" => Except.ok (Pattern.ofBytes text)
        | some "extended-regexp" => Pattern.ofRegex .lenient text
        | _ => Pattern.ofRegex .lenientBasic text).mapError Pattern.Fault.message
    let finish (p : Pattern) : Pattern :=
      bounded found (if isIgnoringCase found then p.ignoringCase else p)
    let warnings := if style? = some "extended-regexp" then
        texts.flatMap fun text => (Pattern.idleSigns (text.length + 1) true text).map fun sign =>
          "warning: " ++ sign ++ " at start of expression"
      else []
    return match branches with
      | [] => (none, warnings)
      | p :: ps => (some (.longest (finish (ps.foldl Pattern.alt p))), warnings)

/-! ## Files -/

/-- Which files are passed over: by patterns for names, each of which says whether it is for files that
are taken; the last one that fits decides. -/
structure Sieve where
  files : List (Bool × String)
  folders : List String

namespace Sieve

/-- Does a name fit a pattern, or the end of it if it was given as an operand? -/
def fits (isOperand : Bool) (pattern name : String) : Bool :=
  Pattern.fits pattern name ||
    (isOperand && (List.range name.length).any fun i =>
      let rest := name.toList.drop i
      rest.head? = some '/' && (rest.drop 1).head? ≠ some '/' &&
        Pattern.fits pattern (String.ofList (rest.drop 1)))

def skipsFile (s : Sieve) (isOperand : Bool) (name : String) : Bool :=
  match s.files.reverse.find? fun (_, pattern) => fits isOperand pattern name, s.files with
  | some (taken, _), _ => !taken
  | none, (taken, _) :: _ => taken
  | none, [] => false

def skipsFolder (s : Sieve) (isOperand : Bool) (name : String) : Bool :=
  s.folders.any fun pattern => fits isOperand pattern name

end Sieve

/-- The files below a directory that are searched, as they are named from it; the fuel bounds how deep they
lie. Links are followed if that is asked for. -/
def filesBelow (files : Files.System) (sieve : Sieve) (following : Bool) : Nat → String → List String
  | 0, _ => []
  | fuel + 1, path =>
    match files.list (Path.ofString path) with
    | .error _ => [path]
    | .ok names =>
      names.flatMap fun raw =>
        let name := String.ofList (Text.Utf8.lossy raw)
        let below := path ++ (if path.endsWith "/" then "" else "/") ++ name
        let isLink := match files.resolve false (Path.ofString below) with
          | .ok (.found _ node) => node.isLink
          | _ => false
        if isLink && !following then []
        else if files.isDir (Path.ofString below) then
          if sieve.skipsFolder false name then [] else filesBelow files sieve following fuel below
        else if sieve.skipsFile false name then []
        else [below]

/-- A file that is searched, as it is named, and whether it was found below a directory. -/
structure Candidate where
  name : String
  isBelow : Bool

/-- The files that operands stand for. -/
def candidates (files : Files.System) (found : Options) (sieve : Sieve) (operands : List String) :
    List Candidate :=
  let following := found.has "dereference-recursive"
  let recursive := following || found.has "recursive" || found.value? "directories" = some "recurse"
  if recursive && operands.isEmpty then
    (filesBelow files sieve following 64 ".").map fun path => ⟨String.ofList (path.toList.drop 2), true⟩
  else
    (if operands.isEmpty then ["-"] else operands).flatMap fun name =>
      let path := Path.ofString name
      if name ≠ "-" && files.isDir path then
        if found.value? "directories" = some "skip" || sieve.skipsFolder true name then []
        else if recursive then
          (filesBelow files sieve following 64 name).map fun path => ⟨path, true⟩
        else [⟨name, false⟩]
      else if sieve.skipsFile true name then []
      else [⟨name, false⟩]

/-- A number of lines around a selected one. -/
def contextOf (found : Options) (name : String) : Except String Nat :=
  match found.reverse.find? fun (given, _) => given = name || given = "context" with
  | none => .ok 0
  | some (_, text) =>
    match decimal? text.toList with
    | some n => .ok n
    | none => .error (text ++ ": invalid context length argument")

/-- The texts of all patterns, and the operands that are no pattern. -/
def patternTexts (s : Scene) (found : Options) (operands : List String) :
    Except String (List Bytes × List String) :=
  let given := found.filter fun (name, _) => name = "regexp" || name = "file"
  let read (option : String × String) : Except String (List Bytes) :=
    if option.1 = "regexp" then .ok ((Bytes.ofString option.2).splitOn newline)
    else
      match (if option.2 = "-" then .ok s.input else Flow.named s.files s.input option.2) with
      | .ok flow => .ok (linesOf flow.first)
      | .error e => .error ("grep: " ++ option.2 ++ ": " ++ e.reason)
  match given, operands with
  | [], [] => .error grepUsage
  | [], text :: rest => .ok ((Bytes.ofString text).splitOn newline, rest)
  | given, operands => (given.mapM read).map fun texts => (texts.flatten, operands)

/-- What the options ask for that there is none of. -/
def misused? (found : Options) : Option String :=
  let directories := (found.value? "directories").getD "read"
  if ! ["read", "recurse", "skip"].contains directories then
    some ("invalid argument " ++ Quoting.value directories ++ " for '--directories'\nValid arguments are:" ++
      String.join (["read", "recurse", "skip"].map fun kind => "\n  - '" ++ kind ++ "'") ++ "\n" ++ grepUsage)
  else if ! ["read", "skip"].contains ((found.value? "devices").getD "read") then
    some "unknown devices method"
  else if ! ["binary", "text", "without-match"].contains ((found.value? "binary-files").getD "text") then
    some "unknown binary-files type"
  else none

/-- The colours that are asked for, and a warning of where they are from. -/
def coloursOf (s : Scene) (found : Options) : Except String (Colours × List String) :=
  let kind := (found.reverse.find? fun (name, _) => name = "color" || name = "colour").map (·.2)
  if ! ["", "always", "yes", "force", "never", "no", "none", "auto", "tty", "if-tty"].contains
    (kind.getD "") then .error grepUsage
  else if ! ["always", "yes", "force"].contains (kind.getD "") then .ok (.none, [])
  else
    let colours : Colours := {}
    let (colours, warnings) := match s.environment.lookup "GREP_COLOR" with
      | some text =>
        if text.isEmpty || !Colours.isColour text then (colours, [])
        else
          ({ colours with selected := text, context := text },
            ["warning: GREP_COLOR='" ++ text ++ "' is deprecated; use GREP_COLORS='mt=" ++ text ++ "'"])
      | none => (colours, [])
    .ok (match s.environment.lookup "GREP_COLORS" with
      | some text => colours.named text
      | none => colours, warnings)

/-- The patterns that files are passed over by; some are read from files. -/
def sieveOf (s : Scene) (found : Options) : Except String Sieve := do
  let files ← found.mapM fun (option, text) =>
    match option with
    | "include" => .ok [(true, text)]
    | "exclude" => .ok [(false, text)]
    | "exclude-from" =>
      match s.files.read (Path.ofString text) with
      | .ok bytes => .ok ((linesOf bytes).map fun line => (false, String.ofList (Text.Utf8.lossy line)))
      | .error e => .error (text ++ ": " ++ e.reason)
    | _ => .ok []
  let folders := (found.all "exclude-dir").map fun name =>
    String.ofList (name.toList.reverse.dropWhile (· = '/')).reverse
  return { files := files.flatten, folders }

/-- What is said of the lines of a file with bytes that are no text. -/
inductive Crudity
  | said
  | taken
  | ignored
deriving DecidableEq

def crudityOf (found : Options) : Crudity :=
  match found.reverse.find? fun (name, _) => ["text", "I", "binary-files"].contains name with
  | some ("text", _) => .taken
  | some ("I", _) => .ignored
  | some (_, "text") => .taken
  | some (_, "without-match") => .ignored
  | _ => if found.has "null-data" then .taken else .said

/-- How many digits numbers for a file have where they are to line up. -/
def numberWidth (found : Options) (name : String) (bytes : Bytes) : Nat :=
  if !found.has "initial-tab" then 0
  else if name = "-" then 19
  else (bytes.length + if found.has "line-number" then 1 else 0).repr.length

/-- Searches the files that are named, one after another: what is written, whether any line was selected,
whether there were errors, and what is left of the input. -/
def searchFiles (s : Scene) (v : SearchView) (crudity : Crudity) (label : String → String)
    (naming : Candidate → Bool) (files : List Candidate) :
    List (Outlet × Bytes) × Bool × Bool × Flow :=
  let silent := v.found.has "quiet" || v.found.has "silent"
  let plainShow := silent || ["count", "files-with-matches", "files-without-match"].any v.found.has
  let listing := v.found.has "files-without-match"
  let (writes, any, failed, unread) := files.foldl
    (fun (acc : List (List (Outlet × Bytes)) × Bool × Bool × Flow) c =>
      let (writes, any, failed, unread) := acc
      let isInput := c.name = "-"
      match (if isInput then .ok unread else Flow.named s.files unread c.name) with
      | .error e =>
        let said := if v.found.has "no-messages" then []
          else [told ("grep: " ++ plainly c.name e)]
        (said :: writes, any, true, unread)
      | .ok flow =>
        let bytes := flow.first
        let unread := if isInput then Flow.empty else unread
        let v := { v with named := naming c, width := numberWidth v.found c.name bytes }
        let isCrude := crudity ≠ .taken && bytes.contains 0
        let lines := if isCrude && crudity = .ignored then [] else v.lines bytes
        let selected := lines.any (·.selected)
        let later := writes.any fun w => w.any fun (outlet, bytes) => outlet = .out && bytes ≠ []
        let said : List (Outlet × Bytes) :=
          if isCrude && crudity = .ignored && listing then []
          else if isCrude && !plainShow then
            if selected then [told ("grep: " ++ label c.name ++ ": binary file matches")] else []
          else [(.out, v.file later (label c.name) lines)]
        (said :: writes, any || selected, failed, unread)) ([], false, false, s.input)
  (writes.reverse.flatten, any, failed, unread)

/-- Shows the lines in which patterns occur. -/
def grep (s : Scene) : Deed :=
  match Options.read grepForms s.args with
  | .error f => complaint s ("grep: " ++ f.message ++ "\n" ++ grepUsage) 2
  | .ok (given, operands) =>
    let found := withCounts given
    let fails (text : String) : Deed := complaint s text 2
    match misused? found, coloursOf s found with
    | some text, _ => fails ("grep: " ++ text)
    | _, .error text => fails text
    | none, .ok (colours, warnings) =>
    match patternTexts s found operands, contextOf found "before-context",
        contextOf found "after-context" with
    | _, .error text, _ | _, _, .error text => fails ("grep: " ++ text)
    | .error text, _, _ => fails text
    | .ok (texts, operands), .ok before, .ok after =>
      match questOf found texts, (found.value? "max-count").map integer?, sieveOf s found with
      | .error text, _, _ | _, _, .error text => fails ("grep: " ++ text)
      | _, some none, _ => fails "grep: invalid max count"
      | .ok (quest, idle), most, .ok sieve =>
        let warnings := (warnings ++ idle).map fun text => told ("grep: " ++ text)
        let files := candidates s.files found sieve operands
        let forced := ((found.reverse.map (·.1)).find? fun name =>
          name = "with-filename" || name = "no-filename").map (· == "with-filename")
        let naming (c : Candidate) : Bool := forced.getD (1 < operands.length || c.isBelow)
        let bound : Option Nat := match most.join with
          | some (.ofNat n) => some n
          | _ => none
        let onlyMatching := found.has "only-matching"
        let v : SearchView :=
          { found, quest, colours, named := false, width := 0
            mark := lineEnd found "null-data"
            before := if onlyMatching then 0 else before
            after := if onlyMatching then 0 else after
            most := bound }
        let label (name : String) : String :=
          if name = "-" then (found.value? "label").getD "(standard input)" else name
        let silent := found.has "quiet" || found.has "silent"
        let stops := silent || bound.isSome || found.has "files-with-matches"
        let wholeLines := s.input.first.getLast?.all (· = newline) &&
          s.input.cycle.getLast? = some newline
        let readsInput := files.any (·.name = "-")
        if s.input.isEndless && files.length = 1 && readsInput && wholeLines && !stops then
          let v := { v with named := forced.getD false }
          let show1 (bytes : Bytes) : Bytes := v.file false (label "-") (v.lines bytes)
          passing { first := show1 s.input.first, cycle := show1 s.input.cycle } .empty 0
        else
          let s := if s.input.isEndless && stops then
              let rounds := bound.getD 1 + 1
              let size := s.input.first.length + rounds * s.input.cycle.length
              { s with input := Flow.ofBytes (s.input.unroll size).first }
            else s
          let endless (c : Candidate) : Bool :=
            if c.name = "-" then s.input.isEndless
            else (Flow.named s.files .empty c.name).toOption.any Flow.isEndless
          if files.any endless then waiting
          else
            let (writes, any, failed, unread) := searchFiles s v (crudityOf found) label naming files
            { ofWrites s (warnings ++ writes)
                (if any && (!failed || silent) then 0 else if failed then 2 else 1) with
              unread := if readsInput then unread else s.input }

/-- Searches with some option in force. -/
def grepWith (option : String) (s : Scene) : Deed :=
  grep { s with args := option :: s.args }

end Scratchpad.Shell.Tools
