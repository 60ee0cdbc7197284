import Scratchpad.Shell.Finding.Form

/-!
# Requests for files

The arguments of a search are the places where it begins and then a question. Every argument that is a
step of the question is understood at once, with what follows it; then the steps are put together.
Between two steps that stand side by side both are meant, and signs in brackets count for one step.
-/

namespace Scratchpad.Shell.Finding

open Files (Path)

/-- A word of a question. Some words are there without being said. -/
inductive Word
  | step (s : Step)
  | no (said : String)
  | both (said : String)
  | either (said : String)
  | after (said : String)
  | opening (said : String)
  | closing (unsaid : Bool)

def Word.endsStep : Word → Bool
  | .step _ | .closing _ => true
  | _ => false

def Word.beginsStep : Word → Bool
  | .step _ | .opening _ | .no _ => true
  | _ => false

/-- What is known while the arguments are read. -/
structure Draft where
  scene : Scene
  words : List Word := []
  following : Following := .none
  least : Nat := 0
  most : Option Nat := none
  insideFirst : Bool := false
  hasOrder : Bool := false
  dayStart : Bool := false
  style : String := "emacs"
  errands : Nat := 0
  warnings : List String := []
  outlets : List Outlet := []

/-- Adds a word; between two steps both are meant. -/
def Draft.add (d : Draft) (w : Word) : Draft :=
  if w.beginsStep && d.words.getLast?.any (·.endsStep) then
    { d with words := d.words ++ [.both "-a", w] }
  else { d with words := d.words ++ [w] }

def Draft.addStep (d : Draft) (s : Step) : Draft :=
  d.add (.step s)

/-! ## What steps take -/

/-- A number with a sign that says whether more or less is asked for. -/
def orderOf (cs : List Char) : Ordering × List Char :=
  match cs with
  | '+' :: r => (.gt, r)
  | '-' :: r => (.lt, r)
  | cs => (.eq, cs)

def bound? (text : String) : Option Bound :=
  let (order, cs) := orderOf text.toList
  if cs ≠ [] && cs.all Char.isDigit then some ⟨order, (Format.digitsOf cs).1⟩ else none

/-- A number of days or minutes, in nanoseconds; it may have a fraction. -/
def span? (unit : Int) (text : String) : Option (Ordering × Int) :=
  let (order, cs) := orderOf text.toList
  let (whole, r) := Format.digitsOf cs
  match r with
  | [] => if cs = [] then none else some (order, whole * unit)
  | '.' :: r =>
    if (cs.head?.any Char.isDigit || r ≠ []) && r.all Char.isDigit then
      let scale : Nat := 10
      let power := Nat.pow scale r.length
      some (order, whole * unit + (Format.digitsOf r).1 * unit / power)
    else none
  | _ => none

def day : Int := 86400000000000

def minute : Int := 60000000000

/-- The beginning of the day after the one that it is, or now. -/
def Draft.origin (d : Draft) : Int :=
  if d.dayStart then
    let m := d.scene.zone.moment d.scene.now.1 0
    d.scene.zone.seconds { m with hour := 0, minute := 0, second := 0 } * 1000000000 + day
  else d.scene.files.now

/-- The times that a number of days or minutes before now asks for. -/
def ago (d : Draft) (c : Clock) (unit : Int) (text : String) : Option Step :=
  let slack := if unit = day then unit else 0
  (span? unit text).map fun (order, n) =>
    match order with
    | .gt => .within c none (some (d.origin - slack - n - 1))
    | .lt =>
      let back := if unit = day then 1000000000 else 0
      .within c (some (d.origin - back - n)) none
    | .eq =>
      let first := d.origin - slack - n
      .within c (some (if d.dayStart then first - 1 else first)) (some (first + unit))

/-- The letters of kinds in a list with commas. -/
def kinds (option text : String) : Except String (List Char) :=
  let known := ['b', 'c', 'd', 'f', 'l', 'p', 's']
  let rec go (done : List Char) : List Char → Except String (List Char)
    | [] => .ok done.reverse
    | c :: rest =>
      if !known.contains c then
        .error ("find: Unknown argument to " ++ option ++ ": " ++ String.singleton c)
      else if done.contains c then
        .error ("find: Duplicate file type '" ++ String.singleton c ++ "' in the argument list to " ++
          option ++ ".")
      else
        match rest with
        | [] => .ok (c :: done).reverse
        | [','] =>
          .error ("find: Last file type in list argument to " ++ option ++
            " is missing, i.e., list is ending on: ','")
        | ',' :: rest => go (c :: done) rest
        | _ => .error ("find: Must separate multiple arguments to " ++ option ++ " using: ','")
  if text = "" then
    .error ("find: Arguments to " ++ option ++ " should contain at least one letter")
  else go [] text.toList

def sizeUnits : List (Char × Nat) :=
  [('b', 512), ('c', 1), ('w', 2), ('k', 1024), ('M', 1048576), ('G', 1073741824)]

def sizeStep (text : String) : Except String Step :=
  match text.toList.getLast? with
  | none => .error "find: invalid null argument to -size"
  | some c =>
    let unit := if c.isDigit then some 512 else sizeUnits.lookup c
    match unit with
    | none => .error ("find: invalid -size type " ++ shownAs (String.singleton c))
    | some unit =>
      let digits := if c.isDigit then text else String.ofList text.toList.dropLast
      match bound? digits with
      | some b => .ok (.size b unit)
      | none => .error ("find: Invalid argument " ++ shownAs text ++ " to -size")

/-- The permissions that a mode gives to what has none. -/
def modeStep (text : String) : Option (Step × List String) := do
  let (demand, cs) : Demand × List Char := match text.toList with
    | '-' :: r => (.all, r)
    | '/' :: r => (.some, r)
    | cs => (.exactly, cs)
  if cs.head? = some '+' && (cs.drop 1).head?.any Files.Permissions.isOctal then failure
  let changes ← Files.Permissions.ofText? cs
  let file := Files.Permissions.adjust changes false 0 0
  let dir := Files.Permissions.adjust changes true 0 0
  let warnings := if (demand matches .some) && file = 0 then
      ["find: warning: you have specified a mode pattern " ++ text ++
        " (which is equivalent to /000). The meaning of -perm /000 has now been changed to be " ++
        "consistent with -perm -000; that is, while it used to match no files, it now matches all files."]
    else []
  return (.mode demand file dir, warnings)

/-! ## Expressions -/

/-- The kinds of expressions, and how each is written. -/
def styles : List (String × String) :=
  [("findutils-default", "emacs"), ("ed", "basic"), ("emacs", "emacs"), ("gnu-awk", "extended"),
    ("grep", "basic"), ("posix-awk", "extended"), ("awk", "extended"), ("posix-basic", "basic"),
    ("posix-egrep", "extended"), ("egrep", "extended"), ("posix-extended", "extended"),
    ("posix-minimal-basic", "basic"), ("sed", "basic")]

/-- A set behind its opening bracket, without names of classes, in the way of all expressions, and the
rest. -/
def plainSet : Nat → Bytes → Bytes × Bytes
  | 0, cs => ([], cs)
  | _, [] => ([], [])
  | _, 0x5D :: r => ([0x5D], r)
  | fuel + 1, b :: r =>
    let (more, rest) := plainSet fuel r
    ((if b = 0x5B then [0x5B, 0x2E, b, 0x2E, 0x5D] else [b]) ++ more, rest)

/-- An expression in which signs that repeat need no backslash and groups do, in the basic way. -/
def basicText : Nat → Bytes → Bytes
  | 0, cs => cs
  | _, [] => []
  | fuel + 1, 0x5C :: c :: r =>
    let signs : Bytes := [0x2B, 0x3F, 0x7B, 0x7D]
    (if signs.contains c then [c] else [0x5C, c]) ++ basicText fuel r
  | fuel + 1, 0x5B :: r =>
    let (front, r) : Bytes × Bytes := match r with
      | 0x5E :: 0x5D :: r => ([0x5E, 0x5D], r)
      | 0x5E :: r => ([0x5E], r)
      | 0x5D :: r => ([0x5D], r)
      | r => ([], r)
    let (members, rest) := plainSet (r.length + 1) r
    0x5B :: front ++ members ++ basicText fuel rest
  | fuel + 1, b :: r => (if b = 0x2B || b = 0x3F then [0x5C, b] else [b]) ++ basicText fuel r

def expressionStep (style : String) (anyCase : Bool) (text : String) : Except String Step :=
  let bytes := Bytes.ofString text
  let found := match style with
    | "emacs" => Pattern.ofRegex .lenientBasic (basicText (bytes.length + 1) bytes)
    | "basic" => Pattern.ofRegex .lenientBasic bytes
    | _ => Pattern.ofRegex .lenient bytes
  match found with
  | .ok p => .ok (.matching (if anyCase then p.ignoringCase else p))
  | .error fault =>
    .error ("find: failed to compile regular expression " ++ Quoting.always text ++ ": " ++ fault.message)

/-! ## Other programs -/

def mark : String := "\x7b\x7d"

/-- How often the mark for a file is in a word. -/
def marksIn (word : String) : Nat :=
  (word.splitOn mark).length - 1

/-- The words of a command up to its end, whether it takes many files at once, and what is left. `last` says
whether the word before had the mark. -/
def commandWords (canGather : Bool) : Bool → List String → Option (List String × Bool × List String)
  | _, [] => none
  | last, word :: rest =>
    if word = ";" then some ([], false, rest)
    else if canGather && last && word = "+" then some ([], true, rest)
    else
      (commandWords canGather (0 < marksIn word) rest).map fun (words, together, left) =>
        (word :: words, together, left)

/-- The step that runs another program. -/
def runStep (d : Draft) (option : String) (args : List String) :
    Except String (Draft × List String) :=
  let asks := option = "-ok" || option = "-okdir"
  let inPlace := option = "-execdir" || option = "-okdir"
  match commandWords (!asks) false args with
  | none => .error ("find: missing argument to " ++ shownAs option)
  | some ([], _, _) => .error ("find: invalid argument " ++ shownAs (args.headD "") ++ " to " ++ shownAs option)
  | some (words, together, rest) =>
    let marked := words.filter fun word => 0 < marksIn word
    if together && 1 < marked.length then
      .error ("find: Only one instance of " ++ mark ++ " is supported with " ++ option ++ " ... +")
    else if together && marked ≠ [mark] then
      .error ("find: In '" ++ option ++ " ... " ++ mark ++ " +' the '" ++ mark ++
        "' must appear by itself, but you specified " ++ Quoting.always (marked.headD ""))
    else
      .ok ({ d with errands := d.errands + 1 }.addStep (.run ⟨d.errands, words, together, inPlace, asks⟩), rest)

/-! ## Steps -/

def outletOf (name : String) : Outlet :=
  match name with
  | "/dev/stdout" => .out
  | "/dev/stderr" => .err
  | name => .file name

/-- Steps that take nothing. -/
def bareSteps : List (String × Step) :=
  [("-true", .always true), ("-false", .always false), ("-empty", .empty), ("-prune", .prune),
    ("-quit", .quit), ("-print", .print .out 10), ("-print0", .print .out 0), ("-ls", .describe .out),
    ("-readable", .allowed 4), ("-writable", .allowed 2), ("-executable", .allowed 1),
    ("-nouser", .nobody), ("-nogroup", .nobody)]

/-- Words that put steps together. -/
def joints : List (String × Word) :=
  [("!", .no "!"), ("-not", .no "-not"), ("-a", .both "-a"), ("-and", .both "-and"),
    ("-o", .either "-o"), ("-or", .either "-or"), (",", .after ","), ("(", .opening "("),
    (")", .closing false)]

/-- Words that change how everything is looked for; as steps they are always true. -/
def Draft.withManner? (d : Draft) (word : String) : Option Draft :=
  match word with
  | "-depth" | "-d" => some { d with insideFirst := true, hasOrder := true }
  | "-follow" => some { d with following := .all }
  | "-daystart" => some { d with dayStart := true }
  | "-mount" | "-xdev" | "-noleaf" | "-warn" | "-nowarn" | "-ignore_readdir_race"
  | "-noignore_readdir_race" => some d
  | _ => none

/-- The number of an owner or a group. -/
def numbered (names : List (String × Nat)) (text : String) : Option Nat :=
  (names.lookup text).or (if text ≠ "" && text.toList.all Char.isDigit then
    some (Format.digitsOf text.toList).1 else none)

def ownerStep (text : String) : Except String Step :=
  if text = "" then .error "find: The argument to -user should not be empty"
  else
    match numbered Tools.users text with
    | some n => .ok (.owner ⟨.eq, n⟩)
    | none => .error ("find: " ++ Quoting.always text ++ " is not the name of a known user")

def groupStep (text : String) : Except String Step :=
  if text = "" then .error "find: argument to -group is empty, but should be a group name"
  else
    match numbered Tools.groupNames text with
    | some n => .ok (.group ⟨.eq, n⟩)
    | none =>
      let behind := text.toList.dropWhile Char.isDigit
      .error ("find: " ++ Quoting.always text ++ " is not the name of an existing group" ++
        if behind.length < text.length then
          " and it does not look like a numeric group ID because it has the unexpected suffix " ++
            Quoting.always (String.ofList behind)
        else "")

def depthOf (option text : String) : Except String Nat :=
  if text ≠ "" && text.toList.all Char.isDigit then .ok (Format.digitsOf text.toList).1
  else
    .error ("find: Expected a positive decimal integer argument to " ++ option ++ ", but got " ++
      Quoting.always text)

/-- What stands at a path that a step names. -/
def Draft.look (d : Draft) (name : String) : Except String Files.Node :=
  let p := Path.ofString name
  let found := if d.following = .none then d.scene.files.entry? p
    else (d.scene.files.node? p).orElseLazy fun _ => d.scene.files.entry? p
  found.mapError fun e => "find: " ++ Quoting.always name ++ ": " ++ e.reason

def clockOf? : Char → Option Clock
  | 'a' => some .used
  | 'c' | 'm' => some .changed
  | _ => none

/-- The step that compares a time with that of another file, or with one that is said in words. -/
def newerStep (d : Draft) (option : String) (x y : Char) (arg : Option String) : Except String Step :=
  let invalid : Except String Step := .error ("find: invalid predicate " ++ shownAs option)
  let noBirth := "find: This system does not provide a way to find the birth time of a file.\n"
  if x = 'B' || y = 'B' then .error (noBirth ++ "find: invalid predicate " ++ shownAs option)
  else
    match clockOf? x with
    | none => invalid
    | some c =>
      if y ≠ 't' && (clockOf? y).isNone then invalid
      else
        match arg with
        | none => .error ("find: The " ++ Quoting.always option ++ " test needs an argument")
        | some arg =>
          match clockOf? y with
          | some other => do
            let node ← d.look arg
            return .within c (some (other.of node)) none
          | none =>
            match d.scene.time? d.scene.zone arg with
            | some (seconds, nano) => .ok (.within c (some (seconds * 1000000000 + nano)) none)
            | none =>
              .error ("find: I cannot figure out how to interpret " ++ Quoting.always arg ++
                " as a date or time")

/-- Understands a word that takes one argument; nothing if it is no such word. -/
def valued? (d : Draft) (word arg : String) : Option (Except String Draft) :=
  let invalid : Except String Draft := .error ("find: invalid argument " ++ shownAs arg ++ " to " ++ shownAs word)
  let step (s : Except String Step) : Option (Except String Draft) := some (s.map d.addStep)
  let numeric (make : Bound → Step) : Option (Except String Draft) :=
    some (match bound? arg with
      | some b => .ok (d.addStep (make b))
      | none => invalid)
  let aged (c : Clock) (unit : Int) : Option (Except String Draft) :=
    some (match ago d c unit arg with
      | some s => .ok (d.addStep s)
      | none => invalid)
  let always (d : Draft) : Draft := d.addStep (.always true)
  let formed (o : Outlet) (form : String) : Except String Draft :=
    match piecesOf (form.length + 1) form.toList with
    | .ok (pieces, warnings) =>
      .ok ({ d with warnings := d.warnings ++ warnings, outlets := d.outlets ++ [o] }.addStep
        (.printForm o pieces))
    | .error fault => .error fault.message
  let written (make : Outlet → Step) : Option (Except String Draft) :=
    let o := outletOf arg
    some (.ok ({ d with outlets := d.outlets ++ [o] }.addStep (make o)))
  match word with
  | "-name" => step (.ok (.fits .name false arg))
  | "-iname" => step (.ok (.fits .name true arg))
  | "-path" | "-wholename" => step (.ok (.fits .path false arg))
  | "-ipath" | "-iwholename" => step (.ok (.fits .path true arg))
  | "-lname" => step (.ok (.fits .target false arg))
  | "-ilname" => step (.ok (.fits .target true arg))
  | "-regex" => step (expressionStep d.style false arg)
  | "-iregex" => step (expressionStep d.style true arg)
  | "-regextype" =>
    some (match styles.lookup arg with
      | some style => .ok (always { d with style })
      | none =>
        .error ("find: Unknown regular expression type " ++ Quoting.always arg ++ "; valid types are " ++
          ", ".intercalate (styles.map fun (name, _) => Quoting.always name) ++ "."))
  | "-type" => step ((kinds word arg).map fun letters => .kind letters false)
  | "-xtype" => step ((kinds word arg).map fun letters => .kind letters true)
  | "-size" => step (sizeStep arg)
  | "-perm" =>
    some (match modeStep arg with
      | some (s, warnings) => .ok ({ d with warnings := d.warnings ++ warnings }.addStep s)
      | none => .error ("find: invalid mode " ++ Quoting.always arg))
  | "-links" => numeric .names
  | "-inum" => numeric .number
  | "-uid" => numeric .owner
  | "-gid" => numeric .group
  | "-used" =>
    some (match bound? arg with
      | some b => .ok (d.addStep (.usedAfter b))
      | none => .error ("find: Invalid argument " ++ arg ++ " to -used"))
  | "-user" => step (ownerStep arg)
  | "-group" => step (groupStep arg)
  | "-mtime" | "-ctime" => aged .changed day
  | "-atime" => aged .used day
  | "-mmin" | "-cmin" => aged .changed minute
  | "-amin" => aged .used minute
  | "-newer" | "-cnewer" =>
    step ((d.look arg).map fun node => .within .changed (some (Clock.changed.of node)) none)
  | "-anewer" => step ((d.look arg).map fun node => .within .used (some (Clock.changed.of node)) none)
  | "-samefile" =>
    step (do
      let _ ← d.look arg
      match d.scene.files.resolve (d.following ≠ .none) (Path.ofString arg) with
      | .ok (.found place _) => return .same place
      | _ => return .always false)
  | "-fstype" => step (.ok (.always (arg = "overlay")))
  | "-maxdepth" =>
    some ((depthOf word arg).map fun n => always { d with most := some n })
  | "-mindepth" => some ((depthOf word arg).map fun n => always { d with least := n })
  | "-printf" => some (formed .out arg)
  | "-fprint" => written fun o => .print o 10
  | "-fprint0" => written fun o => .print o 0
  | "-fls" => written .describe
  | _ => none

/-- Words that take one argument. -/
def valuedWords : List String :=
  ["-name", "-iname", "-path", "-wholename", "-ipath", "-iwholename", "-lname", "-ilname", "-regex",
    "-iregex", "-regextype", "-type", "-xtype", "-size", "-perm", "-links", "-inum", "-uid", "-gid",
    "-used", "-user", "-group", "-mtime", "-ctime", "-atime", "-mmin", "-cmin", "-amin", "-newer",
    "-cnewer", "-anewer", "-samefile", "-fstype", "-maxdepth", "-mindepth", "-printf", "-fprint",
    "-fprint0", "-fls"]

/-- Does an argument belong to the question? Brackets and commas do only behind its beginning. -/
def isQuestion (leading : Bool) (arg : String) : Bool :=
  match arg.toList with
  | '-' :: _ :: _ => true
  | [')'] | [','] => !leading
  | ['!'] | ['('] => true
  | _ => false

/-- Understands the arguments one after the other. `last` is the word that took an argument just before.
The fuel bounds them. -/
def understood : Nat → Draft → Option String → List String → Except String Draft
  | 0, d, _, _ => .ok d
  | _, d, _, [] => .ok d
  | fuel + 1, d, last, word :: rest =>
    let missing : Except String Draft := .error ("find: missing argument to " ++ shownAs word)
    if !isQuestion false word then
      .error ("find: paths must precede expression: " ++ shownAs word ++
        match last with
        | some last =>
          if d.scene.files.pathExists (Path.ofString word) then
            "\nfind: possible unquoted pattern after predicate " ++ shownAs last ++ "?"
          else ""
        | none => "")
    else
      match joints.lookup word with
      | some joint => understood fuel (d.add joint) none rest
      | none =>
        match bareSteps.lookup word, d.withManner? word with
        | some s, _ => understood fuel (d.addStep s) none rest
        | none, some d => understood fuel (d.addStep (.always true)) none rest
        | none, none =>
          if word = "-delete" then
            understood fuel ({ d with insideFirst := true }.addStep .delete) none rest
          else if ["-exec", "-execdir", "-ok", "-okdir"].contains word then
            match rest with
            | [] => missing
            | rest =>
              match runStep d word rest with
              | .ok (d, rest) => understood fuel d none rest
              | .error text => .error text
          else if word = "-fprintf" then
            match rest with
            | [] => missing
            | [name] => .error ("find: invalid argument " ++ shownAs name ++ " to " ++ shownAs word)
            | name :: form :: rest =>
              match piecesOf (form.length + 1) form.toList with
              | .error fault => .error fault.message
              | .ok (pieces, warnings) =>
                let o := outletOf name
                let d := { d with warnings := d.warnings ++ warnings, outlets := d.outlets ++ [o] }
                understood fuel (d.addStep (.printForm o pieces)) (some word) rest
          else if valuedWords.contains word then
            match rest with
            | [] => missing
            | arg :: rest =>
              match valued? d word arg with
              | some (.ok d) => understood fuel d (some word) rest
              | some (.error text) => .error text
              | none => missing
          else
            match word.toList with
            | ['-', 'n', 'e', 'w', 'e', 'r', x, y] =>
              match newerStep d word x y rest.head? with
              | .ok s => understood fuel (d.addStep s) (some word) (rest.drop 1)
              | .error text => .error text
            | _ => .error ("find: unknown predicate " ++ shownAs word)

/-! ## Putting steps together -/

/-- How strongly words bind what stands around them. -/
def Word.strength : Word → Nat
  | .after _ => 1
  | .either _ => 2
  | .both _ => 3
  | _ => 0

def Word.said : Word → String
  | .no said | .both said | .either said | .after said | .opening said => said
  | _ => ""

def invalid : String := "find: invalid expression"

def tooMany : String := "find: you have too many ')'"

mutual

/-- The question that some words begin with, with what binds more strongly than the place it is in;
`before` is the word in front. The fuel bounds the words. -/
def composed : Nat → Nat → Option Word → List Word → Except String (Question × List Word)
  | 0, _, _, _ => .error invalid
  | fuel + 1, strength, before, words =>
    match words with
    | [] => .error invalid
    | w :: rest =>
      let first : Except String (Question × List Word) := match w with
        | .step s => .ok (.step s, rest)
        | .no _ => do
          let (q, rest) ← composed fuel 4 (some w) rest
          return (.not q, rest)
        | .both said | .either said | .after said =>
          .error (invalid ++ "; you have used a binary operator '" ++ said ++ "' with nothing before it.")
        | .closing unsaid =>
          match before with
          | some (.opening _) | none => .error (if unsaid then invalid else tooMany)
          | some b =>
            if unsaid then .error ("find: expected an expression after '" ++ b.said ++ "'")
            else .error ("find: expected an expression between '" ++ b.said ++ "' and ')'")
        | .opening said =>
          let isLast := match rest with
            | [] | .closing true :: _ => true
            | _ => false
          if isLast && said ≠ "" then
            .error (invalid ++ "; expected to find a ')' but didn't see one. Perhaps you need an extra " ++
              "predicate after '" ++ said ++ "'")
          else
            match rest with
            | .closing _ :: _ => .error (invalid ++ "; empty parentheses are not allowed.")
            | rest => do
              let (q, rest) ← composed fuel 0 (some w) rest
              match rest with
              | .closing _ :: rest => return (q, rest)
              | _ =>
                throw (invalid ++ "; I was expecting to find a ')' somewhere but did not see one.")
      match first with
      | .ok (q, rest) => extended fuel strength q rest
      | .error text => .error text

/-- A question with what binds it more strongly than its place does. -/
def extended : Nat → Nat → Question → List Word → Except String (Question × List Word)
  | 0, _, _, _ => .error invalid
  | fuel + 1, strength, q, words =>
    match words with
    | [] => .ok (q, [])
    | w :: rest =>
      if w.strength ≤ strength then .ok (q, words)
      else do
        let (other, rest) ← composed fuel w.strength (some w) rest
        let q : Question := match w with
          | .after _ => .after q other
          | .either _ => .either q other
          | _ => .both q other
        extended fuel strength q rest

end

/-- The question of some words. What is found is printed unless the question does something itself. -/
def questionOf (words : List Word) : Except String Question := do
  let acts := words.any fun
    | .step s => s.acts
    | _ => false
  let print : Word := .step (.print .out 10)
  let whole := if words.isEmpty then [print]
    else if acts then words
    else [.opening ""] ++ words ++ [.closing true, .both "-a", print]
  let (q, rest) ← composed (2 * whole.length + 4) 0 none whole
  if rest.isEmpty then return q else throw tooMany

/-- Options in front of everything, with what is left of the arguments. -/
def leadingOptions (d : Draft) : List String → Except String (Draft × List String)
  | [] => .ok (d, [])
  | arg :: rest =>
    match arg with
    | "-H" => leadingOptions { d with following := .named } rest
    | "-L" => leadingOptions { d with following := .all } rest
    | "-P" => leadingOptions { d with following := .none } rest
    | "--" => .ok (d, rest)
    | "-D" =>
      match rest with
      | [] => .error (Tools.hint "find" "Missing argument after the -D option.")
      | flag :: rest =>
        let known := ["exec", "opt", "rates", "search", "stat", "time", "tree", "all", "help"]
        let warnings := ((flag.splitOn ",").filter fun name => !known.contains name).map fun name =>
          "find: Ignoring unrecognised debug flag " ++ Quoting.always name
        leadingOptions { d with warnings := d.warnings ++ warnings } rest
    | arg =>
      match arg.toList with
      | ['-', 'O'] =>
        .error "find: The -O option must be immediately followed by a decimal integer"
      | '-' :: 'O' :: level =>
        if level.all Char.isDigit then leadingOptions d rest
        else .error "find: Please specify a decimal number immediately after -O"
      | _ => .ok (d, arg :: rest)

/-- Understands the arguments of a search. -/
def Search.ofArgs (scene : Scene) : Except String Search := do
  let (d, args) ← leadingOptions { scene } scene.args
  let starts := args.takeWhile fun arg => !isQuestion true arg
  let d ← understood (args.length + 1) d none (args.drop starts.length)
  let question ← questionOf d.words
  let prunes := d.words.any fun
    | .step .prune => true
    | _ => false
  let deletes := d.words.any fun
    | .step .delete => true
    | _ => false
  if prunes && deletes && !d.hasOrder then
    throw ("find: The -delete action automatically turns on -depth, but -prune does nothing when -depth is " ++
      "in effect.  If you want to carry on anyway, just explicitly use the -depth option.")
  return {
    starts := if starts.isEmpty then ["."] else starts
    following := d.following
    least := d.least
    most := d.most
    insideFirst := d.insideFirst
    question
    warnings := d.warnings
    outlets := d.outlets }

end Scratchpad.Shell.Finding
