import Scratchpad.Shell.Differing.Columns
import Scratchpad.Shell.Differing.Groups
import Scratchpad.Shell.Tools.Comparing
import Scratchpad.Shell.Tools.Dates

/-!
# Requests for differences

The options of a comparison say what counts as a difference, in which form differences are shown, and
which files of two directories are compared. Options that contradict each other are complained of, each
as soon as it is met.
-/

namespace Scratchpad.Shell.Differing

/-- The forms in which changes are shown. -/
inductive Form
  | plain
  | commands
  | forward
  | counted
  | unified
  | context
  | side
  | groups
deriving DecidableEq

/-- Is it of no weight in a form whether the last line of a text has its end? -/
def Form.endsLines : Form → Bool
  | .commands | .forward => true
  | _ => false

structure Query where
  form : Form
  isBrief : Bool
  reportsSame : Bool
  layout : Layout
  likeness : Likeness
  columns : Columns
  groups : GroupForms
  readsAll : Bool
  stripsReturns : Bool
  /-- The names that stand for both texts. -/
  labels : List String
  /-- The options, as the heading of each pair of files in directories repeats them. -/
  switches : String
  recursive : Bool
  /-- A file that is missing counts as an empty one; or the first of two does. -/
  anyMissing : Bool
  firstMissing : Bool
  followsLinks : Bool
  anyNameCase : Bool
  beginsAt : Option String
  left : List String

namespace Query

/-- Is nothing shown of texts without a change? -/
def isSilentWhenSame (q : Query) : Bool :=
  match q.form with
  | .side => q.columns.hidesCommon
  | .groups => q.groups.commonGroup = "" || (q.groups.commonGroup = "%=" && q.groups.commonLine = "")
  | _ => true

end Query

/-- What is wrong with a request: with the hint that is given of the usage, or without. -/
inductive Objection
  | usage (text : String)
  | plain (text : String)

def forms : List OptionForm :=
  [.longFlag "binary", .flag 'q' "brief", .longValued "changed-group-format", ⟨none, "color", .perhaps⟩,
    ⟨none, "context", .perhaps⟩, .flag 'e' "ed", .valued 'x' "exclude", .valued 'X' "exclude-from",
    .flag 't' "expand-tabs", .flag 'f' "forward-ed", .longValued "from-file", .longValued "horizon-lines",
    .valued 'D' "ifdef", .flag 'w' "ignore-all-space", .flag 'B' "ignore-blank-lines",
    .flag 'i' "ignore-case", .longFlag "ignore-file-name-case", .valued 'I' "ignore-matching-lines",
    .flag 'b' "ignore-space-change", .flag 'E' "ignore-tab-expansion", .flag 'Z' "ignore-trailing-space",
    .flag 'T' "initial-tab", .valued 'L' "label", .longFlag "left-column", .longValued "line-format",
    .flag 'd' "minimal", .flag 'N' "new-file", .longValued "new-group-format",
    .longValued "new-line-format", .longFlag "no-dereference", .longFlag "no-ignore-file-name-case",
    .longFlag "normal", .longValued "old-group-format", .longValued "old-line-format",
    .longValued "palette", .flag 'n' "rcs", .flag 'r' "recursive", .flag 's' "report-identical-files",
    .flag 'p' "show-c-function", .valued 'F' "show-function-line", .flag 'y' "side-by-side",
    .flag 'H' "speed-large-files", .valued 'S' "starting-file", .longFlag "strip-trailing-cr",
    .longFlag "suppress-blank-empty", .longFlag "suppress-common-lines", .longValued "tabsize",
    .flag 'a' "text", .longValued "to-file", .longValued "unchanged-group-format",
    .longValued "unchanged-line-format", .flag 'P' "unidirectional-new-file",
    ⟨none, "unified", .perhaps⟩, .valued 'W' "width", .valued 'U' "U", .valued 'C' "C"] ++
    OptionForm.flags "0123456789uch"

/-- The options that choose a form, by what they choose. -/
def formOptions : List (String × Form) :=
  [("normal", .plain), ("ed", .commands), ("forward-ed", .forward), ("rcs", .counted), ("u", .unified),
    ("U", .unified), ("unified", .unified), ("c", .context), ("C", .context), ("context", .context),
    ("side-by-side", .side), ("ifdef", .groups), ("line-format", .groups), ("old-line-format", .groups),
    ("new-line-format", .groups), ("unchanged-line-format", .groups), ("old-group-format", .groups),
    ("new-group-format", .groups), ("unchanged-group-format", .groups), ("changed-group-format", .groups)]

/-- What is known while the options are read one by one. -/
structure Draft where
  form : Option Form := none
  context : Nat := 0
  hasContext : Bool := false
  digits : Option Nat := none
  width : Option Nat := none
  tabSize : Option Nat := none
  horizon : Nat := 0
  labels : List String := []
  /-- The forms of groups and lines and other settings that may be given once. -/
  settings : List (String × String) := []
  left : List String := []
  palette : Palette := ⟨"1", "32", "31", "36", "0"⟩
  coloured : Bool := false

namespace Draft

def choose (d : Draft) (f : Form) : Except Objection Draft :=
  match d.form with
  | none => .ok { d with form := some f }
  | some g => if f = g then .ok d else .error (.usage "conflicting output style options")

/-- Sets what may be set only once, unless it is the same again. -/
def setOnce (d : Draft) (option name value : String) : Except Objection Draft :=
  match d.settings.lookup name with
  | some before =>
    if before = value then .ok d
    else .error (.usage ("conflicting " ++ option ++ " option value '" ++ value ++ "'"))
  | none => .ok { d with settings := d.settings ++ [(name, value)] }

def withContext (d : Draft) (n : Nat) : Draft :=
  { d with context := max d.context n, hasContext := true }

/-- The colours in a list of names and numbers. -/
def withPalette (d : Draft) (text : String) : Draft :=
  (text.splitOn ":").foldl (fun d item =>
    match item.splitOn "=" with
    | ["rs", n] => { d with palette := { d.palette with reset := n } }
    | ["hd", n] => { d with palette := { d.palette with header := n } }
    | ["ad", n] => { d with palette := { d.palette with added := n } }
    | ["de", n] => { d with palette := { d.palette with deleted := n } }
    | ["ln", n] => { d with palette := { d.palette with number := n } }
    | _ => d) d

/-- A number that must be more than nothing. -/
def positive (what text : String) : Except Objection Nat :=
  match Tools.decimal? text.toList with
  | some (n + 1) => .ok (n + 1)
  | _ => .error (.usage ("invalid " ++ what ++ " '" ++ text ++ "'"))

/-- One more option; the one before it tells whether a digit goes on with a number. -/
def push (s : Scene) (before : String) (d : Draft) (name value : String) : Except Objection Draft := do
  let isDigit (name : String) : Bool := name.toList.length = 1 && name.toList.all Char.isDigit
  let d ← match formOptions.lookup name with
    | some f => d.choose f
    | none => pure d
  match name with
  | "u" | "c" => return { d with context := max d.context 3 }
  | "U" | "C" | "unified" | "context" =>
    if value = "" && 1 < name.length then return d.withContext 3
    else
      match Tools.decimal? value.toList with
      | some n => return d.withContext n
      | none =>
        if value = "" then return d.withContext 0
        else throw (.usage ("invalid context length '" ++ value ++ "'"))
  | "width" =>
    let n ← positive "width" value
    if d.width.any (· ≠ n) then throw (.plain "conflicting width options")
    else return { d with width := some n }
  | "tabsize" =>
    let n ← positive "tabsize" value
    if d.tabSize.any (· ≠ n) then throw (.plain "conflicting tabsize options")
    else return { d with tabSize := some n }
  | "horizon-lines" =>
    match Tools.decimal? value.toList with
    | some n => return { d with horizon := max d.horizon n }
    | none => throw (.usage ("invalid horizon length '" ++ value ++ "'"))
  | "label" =>
    if d.labels.length = 2 then throw (.plain "too many file label options")
    else return { d with labels := d.labels ++ [value] }
  | "ifdef" => (GroupForms.conditional value).foldlM (fun d (name, form) => d.setOnce "-D" name form) d
  | "line-format" =>
    ["old-line-format", "new-line-format", "unchanged-line-format"].foldlM
      (fun d name => d.setOnce "--line-format" name value) d
  | "starting-file" => d.setOnce "-S" name value
  | "exclude" => return { d with left := d.left ++ [value] }
  | "exclude-from" =>
    let bytes : Except Files.Error Bytes := if value = "-" then .ok s.input.first
      else (Flow.named s.files s.input value).map (·.first)
    match bytes with
    | .ok bytes =>
      let lines := (linesOf bytes).map fun line => (line.reverse.dropWhile Tools.isSpace).reverse
      return { d with left := d.left ++
        (lines.filter (· ≠ [])).map fun line => String.ofList (Text.Utf8.lossy line) }
    | .error e => throw (.plain (value ++ ": " ++ e.reason))
  | "color" =>
    if value = "always" || value = "" then return { d with coloured := value = "always" }
    else if value = "never" || value = "auto" then return { d with coloured := false }
    else throw (.usage ("invalid color '" ++ value ++ "'"))
  | "palette" => return d.withPalette value
  | "to-file" | "from-file" => d.setOnce ("--" ++ name) name value
  | name =>
    if name.endsWith "-format" then d.setOnce ("--" ++ name) name value
    else if isDigit name then
      let n := (Tools.decimal? name.toList).getD 0
      return { d with digits := some (if isDigit before then (d.digits.getD 0) * 10 + n else n) }
    else return d

end Draft

/-- The arguments that are options or belong to them, in their order. -/
def optionWords : Bool → List String → List String
  | _, [] => []
  | true, a :: rest => a :: optionWords false rest
  | false, a :: rest =>
    let waits (r : Except OptionFault (Options × Options.Waiting)) : Bool :=
      (r.toOption.bind (·.2)).isSome
    if a = "--" then ["--"]
    else if a.startsWith "--" then a :: optionWords (waits (Options.ofName forms a)) rest
    else if a.startsWith "-" && a ≠ "-" then
      a :: optionWords (waits (Options.ofLetters forms (a.toList.drop 1))) rest
    else optionWords false rest

/-- The expression that any of some texts fits. -/
def anyOf (texts : List String) : Except Objection (Option Pattern) :=
  texts.foldlM (fun (acc : Option Pattern) text =>
    match Pattern.ofRegex .lenientBasic (Bytes.ofString text) with
    | .error e => .error (.plain (text ++ ": " ++ e.message))
    | .ok p => .ok (some (match acc with
      | some q => .alt q p
      | none => p))) none

namespace Draft

/-- The forms of groups, with what stands for those that are not given. -/
def groupForms (d : Draft) : GroupForms :=
  let get (name usual : String) : String := (d.settings.lookup name).getD usual
  let changed := d.settings.lookup "changed-group-format"
  let old := get "old-group-format" (changed.getD "%<")
  let new := get "new-group-format" (changed.getD "%>")
  { oldLine := get "old-line-format" "%l\n"
    newLine := get "new-line-format" "%l\n"
    commonLine := get "unchanged-line-format" "%l\n"
    oldGroup := old
    newGroup := new
    commonGroup := get "unchanged-group-format" "%="
    changedGroup := changed.getD (old ++ new) }

/-- The request that options make. -/
def finish (d : Draft) (s : Scene) (found : Options) : Except Objection Query := do
  let form := d.form.getD (if found.has "show-c-function" then .context else .plain)
  let context := if d.form.isNone && form = .context && d.digits.isNone then 3 else d.context
  let context := match d.digits with
    | some n =>
      if (form = .context || form = .unified) && (context < n || !d.hasContext) then n else context
    | none => context
  let headings := (found.filter fun (name, _) =>
    name = "show-c-function" || name = "show-function-line").map fun (name, value) =>
      if name = "show-c-function" then "^[[:alpha:]$_]" else value
  let heading ← anyOf headings
  let skipped ← anyOf (found.all "ignore-matching-lines")
  let tabSize := d.tabSize.getD 8
  let expandsTabs := found.has "expand-tabs"
  return {
    form
    isBrief := found.has "brief"
    reportsSame := found.has "report-identical-files"
    layout := {
      context, tabSize, expandsTabs, heading
      tabBehind := found.has "initial-tab"
      bareEmpty := found.has "suppress-blank-empty"
      palette := if d.coloured then some d.palette else none
      zone := s.zone }
    likeness := {
      anyCase := found.has "ignore-case"
      anyTabs := found.has "ignore-tab-expansion"
      anyTrailing := found.has "ignore-trailing-space"
      anyAmount := found.has "ignore-space-change"
      noBlanks := found.has "ignore-all-space"
      tabSize
      countsEnd := !form.endsLines
      thorough := found.has "minimal"
      horizon := max d.horizon context
      skipsEmpty := found.has "ignore-blank-lines"
      skipped }
    columns := .ofWidth (d.width.getD 130) tabSize expandsTabs (found.has "left-column")
      (found.has "suppress-common-lines")
    groups := d.groupForms
    readsAll := found.has "text"
    stripsReturns := found.has "strip-trailing-cr"
    labels := d.labels
    switches := String.join ((optionWords false s.args).map fun w => " " ++ Quoting.word w)
    recursive := found.has "recursive"
    anyMissing := found.has "new-file"
    firstMissing := found.has "unidirectional-new-file"
    followsLinks := !found.has "no-dereference"
    anyNameCase := ((found.filter fun (name, _) =>
      name = "ignore-file-name-case" || name = "no-ignore-file-name-case").getLast?.any fun (name, _) =>
        name = "ignore-file-name-case")
    beginsAt := found.value? "starting-file"
    left := d.left }

end Draft

/-- The request in the arguments, and the pairs of files that are to be compared. -/
def request (s : Scene) : Except Objection (Query × List (String × String)) := do
  let (found, operands) ← match Options.read forms s.args with
    | .error f => throw (.usage f.message)
    | .ok r => pure r
  let (d, _) ← found.foldlM (fun ((d, before) : Draft × String) (name, value) => do
    let d ← d.push s before name value
    return (d, name)) (({} : Draft), "")
  let q ← d.finish s found
  match found.value? "from-file", found.value? "to-file", operands with
  | some _, some _, _ => throw (.plain "--from-file and --to-file both specified")
  | some source, none, names => return (q, names.map fun name => (source, name))
  | none, some goal, names => return (q, names.map fun name => (name, goal))
  | none, none, [a, b] => return (q, [(a, b)])
  | none, none, _ :: _ :: extra :: _ => throw (.usage ("extra operand '" ++ extra ++ "'"))
  | none, none, names =>
    let last := (optionWords false s.args ++ names).getLast?.getD "diff"
    throw (.usage ("missing operand after '" ++ last ++ "'"))

end Scratchpad.Shell.Differing
