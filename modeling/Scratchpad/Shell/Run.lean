import Scratchpad.Shell.Awk.Call
import Scratchpad.Shell.Finding.Walk
import Scratchpad.Shell.Runner.Batches
import Scratchpad.Shell.Runner.Environment
import Scratchpad.Shell.Script
import Scratchpad.Shell.Starting
import Scratchpad.Shell.Values

/-!
# Running scripts

A shell runs the commands of a script one after the other. The stages of a pipeline are run from
left to right, each on what the one before it wrote; a stage that would write for ever ends when
the next one has read enough. The fuel bounds how deeply commands nest, and a shell has so many turns
for its loops and functions: one that runs out of these does not end, and one whose
commands nest too deeply breaks.

A fault of the plain dialect ends the shell, unless it is the fault of a command that is not special.
In the rich dialect it ends the line.
-/

namespace Scratchpad.Shell

open Files (Path System)

/-- Commands that nest too deeply break the shell. -/
def State.spent (st : State) : State :=
  { st with fate := .signalled 11 }

/-- How a text is run: what complaints about its syntax begin with, which line it starts in, and does
a shell that gives up a line go on with the next one? A live text is what is left of the input. -/
structure Reading where
  lead : String
  line : Nat
  recovers : Bool
  isLive : Bool

/-- Where the running of a text has come to. -/
structure Progress where
  state : State
  source : Script.Source
  ran : Bool

/-- Takes steps as long as a step says so. -/
def Progress.steps (step : Progress → Progress × Bool) : Nat → Progress → Progress
  | 0, p => p
  | n + 1, p =>
    match step p with
    | (p, true) => Progress.steps step n p
    | (p, false) => p

/-- Takes rounds as long as one says how to take the next. -/
def Progress.rounds (round : Bool → State → State × Option Bool) : Nat → Bool → State → State
  | 0, _, st => { st with fate := .stuck [] }
  | n + 1, flag, st =>
    match round flag st with
    | (st, some flag) => Progress.rounds round n flag st
    | (st, none) => st

/-- What becomes of a shell whose script makes no sense. -/
def flawed (st : State) (r : Reading) (flaw : Script.Flaw) : State :=
  if st.isRich then
    let lead := r.lead ++ flaw.line.repr ++ ": "
    let st := (flaw.fault.richMessages lead (ByteText.shown flaw.text)).foldl (fun (st : State) said =>
      st.write 2 (Bytes.ofString (said ++ "\n"))) st
    { st with fate := .abandoned, status := 2 }
  else { st with line := flaw.line }.collapse flaw.fault.message

/-- The rich dialect warns of documents that end with the text. -/
def warned (st : State) (r : Reading) (cutOff : List Script.CutOff) : State :=
  if !st.isRich then st
  else
    cutOff.foldl (fun (st : State) c =>
      st.write 2 (Bytes.ofString (r.lead ++ c.last.repr ++ ": warning: here-document at line " ++
        c.first.repr ++ " delimited by end-of-file (wanted `" ++ ByteText.shown c.mark ++ "')\n"))) st

/-- The names of a command without those of the commands in front that only run it, and whether there
were any. -/
def withoutRunners : List (List Char) → List (List Char) × Bool
  | name :: rest =>
    if name = "command".toList then
      match rest with
      | [] => ([name], false)
      | ['-', 'p'] :: [] => ([name], false)
      | ['-', 'p'] :: rest => ((withoutRunners rest).1, true)
      | ['-', '-'] :: next :: rest => ((withoutRunners (next :: rest)).1, true)
      | ('-' :: c :: cs) :: rest => (name :: ('-' :: c :: cs) :: rest, false)
      | rest => ((withoutRunners rest).1, true)
    else (name :: rest, false)
  | [] => ([], false)

/-- A parameter that should be set is not. -/
def unsetFault (st : State) (t : Target) : State :=
  if st.isRich then
    let name := t.shown
    st.endFor ((if name.toList.head?.any Char.isDigit then "$" ++ name else name) ++ ": unbound variable")
  else st.collapse (t.shown ++ ": parameter not set")

/-- The value of an expression of the plain dialect, after the assignments in it. -/
def reckon (st : State) (text : List Char) : State × Option Int :=
  match Arithmetic.evaluate (fun name => (st.get? name).getD []) text with
  | .ok (n, given) =>
    (given.foldl (fun (st : State) (name, n) =>
      if st.isRunning then st.assign name (toString n).toList else st) st, some n)
  | .error .divisionByZero =>
    (st.collapse ("arithmetic expression: division by zero: \"" ++ ByteText.shown text ++ "\""), none)
  | .error (.illegalNumber text) => (st.collapse ("Illegal number: " ++ ByteText.shown text), none)
  | .error (.expecting what) =>
    (st.collapse ("arithmetic expression: expecting " ++ what ++ ": \"" ++ ByteText.shown text ++
      "\""), none)
  | .error .overflow => ({ st with fate := .signalled 8 }, none)

/-- Does a command take settings among its arguments? -/
def takesSettings (st : State) (names : List (List Char)) : Bool :=
  match (withoutRunners names).1 with
  | name :: _ =>
    let known := if st.isRich then "alias" :: Script.declarers else ["export", "readonly", "local", "alias"]
    known.contains (String.ofList name) && (st.functions.lookup name).isNone
  | [] => false

/-- Is a word written like a setting? -/
def isSettingLike (st : State) (w : Word) : Bool :=
  match w with
  | .text cs :: _ => if st.isRich then (Script.settingIn? cs).isSome else (setting? cs).isSome
  | _ => false

/-- What is set by a word that is written like a setting, with the sign, and the value. -/
def settingParts (st : State) (w : Word) : List Char × Word :=
  match w with
  | .text cs :: rest =>
    let value := if st.isRich then (Script.settingIn? cs).map (·.2.2.2) else (setting? cs).map (·.2)
    match value with
    | some r => (cs.take (cs.length - r.length), if r = [] then rest else .text r :: rest)
    | none => ([], w)
  | w => ([], w)

/-- A text as it is shown in a condition. -/
def shownIn (cs : List Char) : List Char :=
  if cs = [] then ['\'', '\''] else cs

/-- A text with every character escaped. -/
def escapedWhole (cs : List Char) : List Char :=
  cs.flatMap fun c => ['\\', c]

/-- A text in which an expression takes everything for itself. -/
def escapedRegex (cs : List Char) : List Char :=
  cs.flatMap fun c => if c.isAlphanum then [c] else ['\\', c]

/-- The file that a script is read from when it is named without a slash. -/
def scriptNamed (st : State) (name : List Char) : Except String Path :=
  if name.contains '/' then .ok (ByteText.toBytes name)
  else
    let dirs := ((st.get? "PATH".toList).getD []).splitOn ':'
    let paths := dirs.map fun dir => if dir = [] then name else dir ++ '/' :: name
    match paths.find? fun path => st.files.isFile (ByteText.toBytes path) with
    | some path => .ok (ByteText.toBytes path)
    | none =>
      if st.isRich then .ok (ByteText.toBytes name) else .error (ByteText.shown name ++ ": not found")

/-- What the rich dialect says of a program that cannot be run, and the status. -/
def richRefusal (st : State) (text : String) (e : Files.Error) : String × Nat :=
  if text.toList.contains '/' then
    if st.files.isDir (Path.ofString text) then (text ++ ": Is a directory", 126)
    else if e = .permission then (text ++ ": Permission denied", 126)
    else if e = .noEntry && st.files.isFile (Path.ofString text) then
      (text ++ ": cannot execute: required file not found", 127)
    else if e = .badFormat then (text ++ ": cannot execute binary file: Exec format error", 126)
    else (text ++ ": " ++ e.reason, 127)
  else if e = .permission then (text ++ ": Permission denied", 126)
  else (text ++ ": command not found", 127)

/-- The same in the plain dialect. -/
def plainRefusal (text : String) (e : Files.Error) : String × Nat :=
  if text = "" then (": Permission denied", 127)
  else
    match e with
    | .noEntry | .notDirectory => (text ++ ": not found", 127)
    | .permission => (text ++ ": Permission denied", if text.toList.contains '/' then 126 else 127)
    | .badFormat => (text ++ ": " ++ e.reason, 126)
    | e => (text ++ ": " ++ e.reason, 127)

mutual

/-- The pieces of a part of a word. -/
def expand : Nat → Mode → State → Part → State × List Piece
  | 0, _, st, _ => (st.spent, [])
  | _ + 1, m, st, .text cs => (st, [.fixed cs m.quoted])
  | fuel + 1, m, st, .quoted inner =>
    let (st, pieces) := expandAll fuel { m with quoted := true } st inner
    let isWhole (part : Part) : Bool := match part with
      | .parameter r none => r.name = ['@'] || (r.index matches some [.text ['@']])
      | _ => false
    let isAlone := match inner with
      | [.parameter r none] => r.name = ['@'] && m.splits
      | _ => false
    if isAlone then (st, pieces)
    else if !st.isRich then (st, .fixed [] true :: pieces ++ [.fixed [] true])
    else if st.isRich && m.splits && inner.any isWhole && pieces.all (·.chars = []) &&
        pieces.length < inner.length then (st, [])
    else if pieces.isEmpty then (st, [.fixed [] true])
    else (st, pieces)
  | fuel + 1, m, st, .parameter r change =>
    match targetOf fuel st r with
    | (st, none) => (st, [])
    | (st, some t) =>
      let v := st.valueOf t
      let isMissing := st.has 'u' && (v matches .one none)
      let named : Target := if r.indirect then .variable ⟨'!' :: r.name, none⟩ else t
      match change with
      | some (.instead mark other) => instead fuel m st t v mark other
      | change =>
        if isMissing then (unsetFault st named, [])
        else
          match change, v with
          | none, v => (st, v.pieces m st)
          | some (.transform letter), v => changed fuel m st t v (.transform letter)
          | some _, .one none => (st, v.pieces m st)
          | some change, v => changed fuel m st t v change
  | fuel + 1, m, st, .size r =>
    match targetOf fuel st r with
    | (st, none) => (st, [])
    | (st, some t) =>
      let isUnknown := r.index.isSome && st.has 'u' && !st.holds r.name
      if isUnknown then (st.giveUp (ByteText.shown r.name ++ ": unbound variable"), [])
      else
      match st.valueOf t with
      | .many texts _ =>
        let n := if st.isRich then texts.length else (st.joint.intercalate texts).length
        (st, m.piece (Nat.toDigits 10 n))
      | .one none =>
        if st.has 'u' then (unsetFault st t, []) else (st, m.piece ['0'])
      | .one (some text) => (st, m.piece (Nat.toDigits 10 text.length))
  | _ + 1, m, st, .names lead apart =>
    let names := (Builtins.knownNames st).filter lead.isPrefixOf
    (st, (Value.many names (!apart)).pieces m st)
  | _ + 1, m, st, .keys name apart =>
    (st, (Value.many ((st.members name).map (·.1)) (!apart)).pieces m st)
  | fuel + 1, m, st, .arithmetic inner =>
    let (st, text) := joinedText fuel true st inner
    if !st.isRunning then (st, [])
    else
      let (st, n) := if st.isRich then st.calculate State.giveUp text else reckon st text
      (st, match n with
        | some n => m.piece (toString n).toList
        | none => [])
  | _ + 1, _, st, .bad written =>
    (if st.isRich then st.giveUp (ByteText.shown written ++ ": bad substitution")
      else st.collapse "Bad substitution", [])
  | fuel + 1, m, st, .output script =>
    let (st, bytes) := outputOf fuel st script
    let st :=
      if st.isRich && bytes.contains 0 then
        st.complain "warning: command substitution: ignored null byte in input"
      else st
    let text := (ByteText.ofBytes (bytes.filter (· ≠ 0))).reverse.dropWhile (· = '\n')
    (st, m.piece text.reverse)
  | fuel + 1, m, st, .channel script =>
    let status := st.status
    let (st, bytes) := outputOf fuel st script
    let number := 63 - ((st.files.list (Path.ofString "/dev/fd")).toOption.getD []).length
    let path := "/dev/fd/" ++ number.repr
    let (files, _) := st.files.makeDirs (Path.ofString "/dev/fd")
    let files := (files.write (Path.ofString path) bytes).toOption.getD files
    ({ st with files, status }, m.piece path.toList)
  | fuel + 1, m, st, .document id =>
    match st.documents.lookup id with
    | some w => expandAll fuel m st w
    | none => (st, [])

def expandAll : Nat → Mode → State → List Part → State × List Piece
  | 0, _, st, _ => (st.spent, [])
  | fuel + 1, m, st, parts =>
    let (st, found) := parts.foldl (fun (acc : State × List (List Piece)) part =>
      if acc.1.isRunning then
        let (st, pieces) := expand fuel m acc.1 part
        (st, pieces :: acc.2)
      else acc) (st, [])
    (st, found.reverse.flatten)

/-- The text of some parts that are not split. -/
def joinedText : Nat → Bool → State → List Part → State × List Char
  | 0, _, st, _ => (st.spent, [])
  | fuel + 1, quoted, st, parts =>
    let (st, pieces) := expandAll fuel ⟨quoted, false⟩ st parts
    (st, pieces.flatMap Piece.chars)

/-- What a command writes. -/
def outputOf : Nat → State → Command → State × Bytes
  | 0, st, _ => (st.spent, [])
  | fuel + 1, st, script =>
    let pipe := Sink.pipe st.pipes
    let inner := { st.inside with pipes := st.pipes + 1, levels := st.levels + 1 }.setSink 1 (some pipe)
    let inner :=
      match script with
      | .simple line [] [] [] [r] =>
        if st.isRich && r.kind = Redirection.read then
          let (inner, name) := joinedText fuel false { inner with line } r.target
          match Flow.named inner.files inner.input (ByteText.shown name) with
          | .ok flow => inner.write 1 flow.first
          | .error e => (inner.complain (inner.redirectionFailure false (ByteText.shown name) e)).withStatus 1
        else farewell fuel (run fuel inner script)
      | script => farewell fuel (run fuel inner script)
    let bytes := inner.written pipe
    let back := st.rejoin (inner.forget pipe)
    ({ back with status := st.status, substituted := some back.status }, bytes)

/-- What a reference stands for; none if it makes no sense. -/
def targetOf : Nat → State → Reference Word → State × Option Target
  | 0, st, _ => (st.spent, none)
  | fuel + 1, st, r =>
    let isReference := r.indirect && r.index.isNone && st.hasTrait r.name 'n'
    let (st, t) := if isReference then (st, some (Target.ofName r.name)) else indexed fuel st r.name r.index
    match t with
    | none => (st, none)
    | some t =>
      if !r.indirect then (st, some t)
      else if isReference then
        (st, some (.literal (ByteText.shown (st.aim r.name)).toList))
      else
        match st.valueOf t with
        | .one (some text) =>
          match Script.settingIn? (text ++ ['=']) with
          | some (name, some key, _) => indexed fuel st name (some [.text key])
          | _ =>
            if isName text || text.all Char.isDigit || text = ['@'] || text = ['*'] then
              (st, some (Target.ofName text))
            else (st.giveUp (ByteText.shown text ++ ": invalid variable name"), none)
        | .many texts joined =>
          match texts with
          | [text] => (st, some (Target.ofName text))
          | _ => (st, some (.arguments joined))
        | .one none => (st.giveUp (t.shown ++ ": invalid indirect expansion"), none)

/-- What a name with an index stands for. -/
def indexed : Nat → State → List Char → Option Word → State × Option Target
  | 0, st, _, _ => (st.spent, none)
  | fuel + 1, st, name, index =>
    match index with
    | none =>
      (st, some (if st.traits.isEmpty then Target.ofName name
        else
          match st.aimed ⟨name, none⟩ with
          | ⟨name, none⟩ => Target.ofName name
          | ⟨name, some ['@']⟩ => .members name false
          | ⟨name, some ['*']⟩ => .members name true
          | p => .variable p))
    | some [.text ['@']] => (st, some (.members (st.aim name) false))
    | some [.text ['*']] => (st, some (.members (st.aim name) true))
    | some w =>
      let name := st.aim name
      let (st, text) := joinedText fuel false st w
      if !st.isRunning then (st, none)
      else
        let (st, key) := st.keyOf State.giveUp name text
        (st, key.map fun key => .variable ⟨name, some key⟩)

/-- A value, or another word in its place. -/
def instead : Nat → Mode → State → Target → Value → List Char → Word → State × List Piece
  | 0, _, st, _, _, _, _ => (st.spent, [])
  | fuel + 1, m, st, t, v, mark, other =>
    let present := v.isPresent st.isRich (mark.head? = some ':')
    let word (st : State) : Word := if m.quoted then other else atHome st false other
    let otherPieces (st : State) : State × List Piece :=
      let (st, pieces) := expandAll fuel m st (word st)
      (st, if m.quoted then pieces else soften pieces)
    match mark.getLast?, present with
    | some '+', true => otherPieces st
    | some '+', false => (st, m.piece [])
    | _, true => (st, v.pieces m st)
    | some '=', false =>
      let (st, text) := joinedText fuel m.quoted st (word st)
      if !st.isRunning then (st, [])
      else
        match t with
        | .variable p =>
          if isName p.name then
            (if st.isRich then st.put State.giveUp p false text else st.assign p.name text, m.piece text)
          else
            (if st.isRich then st.giveUp ("$" ++ t.shown ++ ": cannot assign in this way")
              else st.collapse (t.shown ++ ": bad variable name"), [])
        | t =>
          (if st.isRich then st.giveUp ("$" ++ t.shown ++ ": cannot assign in this way")
            else st.collapse (t.shown ++ ": bad variable name"), [])
    | some '?', false =>
      let (st, text) := joinedText fuel m.quoted st (word st)
      if !st.isRunning then (st, [])
      else
        let filled := mark.head? = some ':'
        let said : String :=
          if text ≠ [] then ByteText.shown text
          else if st.isRich then
            (if filled then "parameter null or not set" else "parameter not set")
          else if filled then "parameter not set or null" else "parameter not set"
        let said := t.shown ++ ": " ++ said
        (if st.isRich then st.endFor said else st.collapse said, [])
    | _, false => otherPieces st

/-- What a change makes of a value. -/
def changed : Nat → Mode → State → Target → Value → Change Word → State × List Piece
  | 0, _, st, _, _, _ => (st.spent, [])
  | fuel + 1, m, st, t, v, change =>
    let pattern (st : State) (w : Word) : State × Pattern :=
      let (st, pieces) := expandAll fuel ⟨false, false⟩ st (atHome st false w)
      (st, wildcardsOf st.knowsGroups pieces)
    let number (st : State) (w : Word) : State × Option Int :=
      let (st, text) := joinedText fuel true st w
      if st.isRunning then
        st.calculate (fun st said => st.giveUp (t.shown ++ ": " ++ said)) text
      else (st, none)
    match change with
    | .instead mark other => instead fuel m st t v mark other
    | .strip front longest w =>
      let (st, p) := pattern st w
      let apart : Option (List (List Char) × Bool) := match v with
        | .many texts joined => if m.keepsApart st joined then some (texts, joined) else none
        | .one _ => none
      match st.isRich, apart with
      | true, _ => (st, (v.map (strip p front longest)).pieces m st)
      | false, some (texts, joined) =>
        (st, (Value.many (stripApart p front longest texts) joined).pieces m st)
      | false, none => (st, m.piece (strip p front longest (v.joinedBy st.joint)))
    | .replace mark w other =>
      let (st, p) := pattern st w
      let (st, pieces) := expandAll fuel ⟨false, false⟩ st other
      let field : Field := pieces.flatMap fun piece =>
        piece.chars.map fun c => (c, piece.isQuoted || !st.manners.contains "patsub_replacement")
      (st, (v.map fun cs => replaced p field mark (cs.length + 1) cs).pieces m st)
    | .recase up all w =>
      let (st, p) := pattern st w
      (st, (v.map (recased up all (if w = [] then none else some p))).pieces m st)
    | .slice start size =>
      match number st start with
      | (st, none) => (st, [])
      | (st, some start) =>
        let (st, size, isBad) : State × Option Int × Bool := match size with
          | none => (st, none, false)
          | some w =>
            match number st w with
            | (st, some n) => (st, some n, false)
            | (st, none) => (st, none, true)
        if isBad then (st, [])
        else
          let found : Option (State × List Piece) := match v with
            | .one text =>
              (sliceText (text.getD []) start size).map fun cs => (st, m.piece cs)
            | .many _ joined =>
              (sliceMany st t start size).map fun texts => (st, (Value.many texts joined).pieces m st)
          match found with
          | some found => found
          | none => (st.giveUp (toString (size.getD 0) ++ ": substring expression < 0"), [])
    | .transform letter =>
      let name : List Char := match t with
        | .variable p => p.name
        | .members name _ => name
        | .arguments _ | .literal _ => []
      match letter with
      | 'a' =>
        let marks := Builtins.marksOf st name
        (st, m.piece marks)
      | 'A' =>
        let marks := Builtins.marksOf st name
        let lead : List Char := if marks = [] then [] else "declare -".toList ++ marks ++ [' ']
        let text : List Char := match v with
          | .one none => []
          | .one (some cs) => lead ++ name ++ '=' :: richlyQuoted cs
          | .many _ _ =>
            match st.lists.lookup name with
            | some l => lead ++ name ++ '=' :: Builtins.shownList l
            | none => []
        (st, m.piece text)
      | letter =>
        match transformed letter [] with
        | some _ =>
          (st, (v.map fun cs => (transformed letter cs).getD cs).pieces m st)
        | none =>
          match v with
          | .one none => (st, [])
          | _ =>
            (st.giveUp ("$\x7b" ++ t.shown ++ "@" ++ String.singleton letter ++ "\x7d: bad substitution"), [])

/-- The fields that a word expands to. -/
def fields : Nat → State → Word → State × List (List Char)
  | 0, st, _ => (st.spent, [])
  | fuel + 1, st, w =>
    let words := if st.isRich && st.has 'B' then bracesOf w else [w]
    words.foldl (fun (acc : State × List (List Char)) w =>
      if !acc.1.isRunning then acc
      else
        let (st, pieces) := expandAll fuel .bare acc.1 (atHome acc.1 false w)
        if !st.isRunning then (st, [])
        else
          let found := Fields.ofPieces st.isRich st.separators pieces
          let paths (f : Field) : List (List Char) :=
            match f.paths? st.wilds st.files with
            | none => [f.chars]
            | some [] => if st.manners.contains "nullglob" then [] else [f.chars]
            | some names => names
          let lost := if st.has 'f' || !st.manners.contains "failglob" then none
            else found.find? fun f => (f.paths? st.wilds st.files) = some []
          match lost with
          | some f => (st.giveUp ("no match: " ++ ByteText.shown f.chars), [])
          | none =>
            let found := if st.has 'f' then found.map Field.chars else found.flatMap paths
            (st, acc.2 ++ found)) (st, [])

/-- The fields of several words. -/
def allFields : Nat → State → List Word → State × List (List Char)
  | 0, st, _ => (st.spent, [])
  | fuel + 1, st, words =>
    words.foldl (fun (acc : State × List (List Char)) w =>
      if !acc.1.isRunning then acc
      else
        let (st, found) := fields fuel acc.1 w
        (st, acc.2 ++ found)) (st, [])

/-- The text that a word expands to where it is not split; in a setting there may be homes behind
colons. -/
def textOf : Nat → Bool → State → Word → State × List Char
  | 0, _, st, _ => (st.spent, [])
  | fuel + 1, setting, st, w => joinedText fuel false st (atHome st setting w)

/-- The names of a command: its words, among which there may be settings. -/
def namesOf : Nat → State → List Word → List (Setting Word) → State × List (List Char)
  | 0, st, _, _ => (st.spent, [])
  | fuel + 1, st, words, declared =>
    let (st, names) := words.foldl (fun (acc : State × List (List Char)) w =>
      let (st, names) := acc
      if !st.isRunning then acc
      else if isSettingLike st w && takesSettings st names then
        let (lead, value) := settingParts st w
        let (st, text) := textOf fuel true st value
        (st, names ++ [lead ++ text])
      else
        let (st, found) := fields fuel st w
        (st, names ++ found)) (st, [])
    declared.foldl (fun (acc : State × List (List Char)) s =>
      let (st, names) := acc
      if !st.isRunning then acc
      else
        let (st, index) : State × List Char := match s.index with
          | some w =>
            let (st, text) := joinedText fuel false st w
            (st, '[' :: text ++ [']'])
          | none => (st, [])
        match s.value with
        | .list _ => (st, names ++ [s.name ++ index])
        | .word w =>
          let (st, text) := textOf fuel true st w
          (st, names ++ [s.name ++ index ++ (if s.adds then ['+', '='] else ['=']) ++ text])) (st, names)

/-- Makes one setting. -/
def settle : Nat → State → Setting Word → State
  | 0, st, _ => st.spent
  | fuel + 1, st, s =>
    let s := { s with name := st.aim s.name }
    match s.value with
    | .list items => settleList fuel st s items
    | .word w =>
      let (st, text) := textOf fuel true st w
      if !st.isRunning then st
      else if !st.isRich then st.assign s.name text
      else
        match s.index with
        | none => st.put State.giveUp ⟨s.name, none⟩ s.adds text
        | some index =>
          let (st, indexText) := joinedText fuel false st index
          if !st.isRunning then st
          else
            match st.keyOf State.giveUp s.name indexText with
            | (st, some key) => st.put State.giveUp ⟨s.name, some key⟩ s.adds text
            | (st, none) => st

/-- Makes a variable a list. Members without a key get the numbers behind the one before them. -/
def settleList : Nat → State → Setting Word → List (Option Word × Word) → State
  | 0, st, _, _ => st.spent
  | fuel + 1, st, s, items =>
    if st.frozen.contains s.name then st.giveUp (ByteText.shown s.name ++ ": readonly variable")
    else
      let keyed := st.isKeyed s.name
      let (st, values) := items.foldl (fun (acc : State × List (Option (List Char) × List Char)) item =>
        let (st, values) := acc
        if !st.isRunning then acc
        else
          match item.1 with
          | some key =>
            let (st, key) := joinedText fuel false st key
            let (st, text) := textOf fuel true st item.2
            (st, (some key, text) :: values)
          | none =>
            if keyed then
              let (st, text) := textOf fuel false st item.2
              match values with
              | (none, key) :: values => (st, (some key, text) :: values)
              | values => (st, (none, text) :: values)
            else
              let (st, found) := fields fuel st item.2
              (st, (found.map fun text => (none, text)).reverse ++ values)) (st, [])
      if !st.isRunning then st
      else
        let before : Listing :=
          if s.adds then ⟨keyed, st.members s.name⟩ else Listing.empty keyed
        let start := if s.adds then before.nextKey else 0
        let st := st.setList s.name before
        let (st, _) := values.reverse.foldl (fun (acc : State × Nat) (key, text) =>
          let (st, next) := acc
          if !st.isRunning then acc
          else
            match key with
            | some key =>
              match st.keyOf State.giveUp s.name key with
              | (st, some key) =>
                (st.put State.giveUp ⟨s.name, some key⟩ false text, Listing.keyNumber key + 1)
              | (st, none) => (st, next)
            | none =>
              (st.put State.giveUp ⟨s.name, some (Nat.toDigits 10 next)⟩ false text, next + 1))
          (st, start)
        st

def settleAll : Nat → State → List (Setting Word) → State
  | 0, st, _ => st.spent
  | fuel + 1, st, settings =>
    settings.foldl (fun (st : State) s => if st.isRunning then settle fuel st s else st) st

/-- Carries out redirections; the flag says whether all of them could be. The words behind their signs
are expanded first, documents only when it is their turn. -/
def redirectAll : Nat → State → List (Redirect Word) → State × Bool
  | 0, st, _ => (st.spent, false)
  | fuel + 1, st, rs =>
    let (st, targets) := rs.foldl (fun (acc : State × List (List Char)) r =>
      if !acc.1.isRunning || r.kind = .here then (acc.1, [] :: acc.2)
      else
        let (st, text) := textOf fuel false acc.1 r.target
        (st, text :: acc.2)) (st, [])
    if !st.isRunning then (st, false)
    else
      let failing := if st.isRich then 1 else 2
      (rs.zip targets.reverse).foldl (fun (acc : State × Bool) (r, text) =>
        let (st, done) := acc
        if !done then acc
        else
          let (st, text) := if r.kind = .here then joinedText fuel false st r.target else (st, text)
          if !st.isRunning then
            if st.fate = .abandoned && !st.isRich then
              ({ st with fate := .running, status := failing }, false)
            else (st, false)
          else
            let fd := match r.holder with
              | none => r.fd
              | some name => if text = ['-'] then ((st.get? name).bind Tools.decimal?).getD 0 else st.freeDescriptor
            match st.redirect fd r.kind text with
            | .ok st =>
              (match r.holder with
                | some name => if text = ['-'] then st else st.set name (Nat.toDigits 10 fd)
                | none => st, true)
            | .error said =>
              if said.startsWith "Syntax" then ({ st with line := st.readLine }.collapse said, false)
              else ((st.object said).withStatus failing, false)) (st, true)

/-- Runs a command unless the shell has ended or is idle. -/
def run : Nat → State → Command → State
  | 0, st, _ => st.spent
  | fuel + 1, st, c =>
    if !st.isRunning || st.has 'n' then st
    else
      match c with
      | .simple line settings words declared rs =>
        checked fuel (runSimple fuel { st with line, substituted := none } settings words declared rs)
      | .pipe stages => checked fuel (runStages fuel st st.elapsedMs st.elapsedMs [] stages)
      | .negate c =>
        let st := st.guard (run fuel · c)
        if st.isRunning then st.withStatus (if st.status = 0 then 1 else 0) else st
      | .both a b =>
        let st := st.guard (run fuel · a)
        if st.isRunning && st.status = 0 then run fuel st b else st
      | .either a b =>
        let st := st.guard (run fuel · a)
        if !st.isRunning || st.status = 0 then st else run fuel st b
      | .sequence items => items.foldl (fun (st : State) c => run fuel st c) st
      | .background c => st.launch (farewell fuel (run fuel st.asJob c))
      | .subshell body =>
        checked fuel (st.rejoin (farewell fuel (run fuel st.inside body)))
      | .group body => run fuel st body
      | .redirected line c rs =>
        let st := if line = 0 then st else { st with line }
        let (inner, done) := redirectAll fuel st rs
        if !inner.isRunning then inner
        else if !done then checked fuel (st.leaveRedirects inner rs)
        else st.leaveRedirects (run fuel inner c) rs
      | .branch test yes no =>
        let st := st.guard (run fuel · test)
        if st.isRunning then body fuel st (if st.status = 0 then yes else no) else st
      | .loop test stopOn c =>
        st.looping fun st => runLoop fuel st test stopOn c
      | .each line name words c head =>
        runEach fuel { st with line } name words c ("for ".toList ++ name ++ " in ".toList ++ head)
      | .select line name words c head =>
        runSelect fuel { st with line } name words c ("select ".toList ++ name ++ " in ".toList ++ head)
      | .count line start test step c => runCount fuel { st with line } start test step c
      | .choose line subject arms head =>
        let st := traced fuel { st with line } ("case ".toList ++ head ++ " in".toList)
        let (st, text) := textOf fuel false st subject
        if st.isRunning then runArms fuel st (ByteText.toBytes text) arms else st
      | .calculate line expression =>
        let (st, text) := joinedText fuel true { st with line } expression
        if !st.isRunning then st
        else
          let st := traced fuel st ("(( ".toList ++ text ++ " ))".toList)
          checked fuel (match st.calculate (fun st said => (st.complain ("((: " ++ said)).withStatus 1) text with
            | (st, some n) => st.withStatus (if n = 0 then 1 else 0)
            | (st, none) => st.withStatus 1)
      | .ask line condition =>
        let (st, outcome) := ask fuel { st with line } "[[ ".toList condition
        if !st.isRunning then st
        else
          checked fuel (match outcome with
            | .ok b => st.withStatus (if b then 0 else 1)
            | .error "" => st.withStatus 2
            | .error said => (st.complain ("[[: " ++ said)).withStatus 1)
      | .define name c written =>
        let f : Routine := ⟨c, st.homeOfFunctions, written⟩
        { st with functions := (name, f) :: st.functions.filter (·.1 ≠ name), status := 0 }
      | .timed brief c =>
        let after := run fuel st c
        let ms := after.elapsedMs - st.elapsedMs
        let digits := Nat.toDigits 10 (ms % 1000)
        let fraction := String.ofList (List.replicate (3 - digits.length) '0' ++ digits)
        let seconds := ms / 1000
        if brief then
          let hundredths := Nat.toDigits 10 (ms % 1000 / 10)
          after.write 2 (Bytes.ofString ("real " ++ seconds.repr ++ "." ++
            String.ofList (List.replicate (2 - hundredths.length) '0' ++ hundredths) ++
            "\nuser 0.00\nsys 0.00\n"))
        else
        after.write 2 (Bytes.ofString ("\nreal\t" ++ (seconds / 60).repr ++ "m" ++
          (seconds % 60).repr ++ "." ++ fraction ++ "s\nuser\t0m0.000s\nsys\t0m0.000s\n"))

/-- What a shell does after a command: it may have been told what to do at a failure, and ends then if
it is strict. -/
def checked : Nat → State → State
  | 0, st => st.spent
  | fuel + 1, st =>
    let st :=
      if st.isRich && st.isRunning && st.status ≠ 0 && !st.guarded then
        match st.traps.lookup Builtins.failure with
        | some script =>
          let traps := st.traps.filter (·.1 ≠ Builtins.failure)
          let after := runText fuel { st with traps } ⟨"", st.line, false, false⟩ script
          { after with traps := st.traps, status := st.status }
        | none => st
      else st
    st.check

/-- The body of a branch; one that is empty succeeds. -/
def body : Nat → State → Command → State
  | 0, st, _ => st.spent
  | fuel + 1, st, c =>
    match c with
    | .sequence [] => st.withStatus 0
    | c => run fuel st c

/-- Runs the first arm with a pattern that matches, and those that it goes on with. -/
def runArms : Nat → State → Bytes → List (Arm Word Command) → State
  | 0, st, _, _ => st.spent
  | fuel + 1, st, subject, arms =>
    let start : State × Option ArmEnd := (st.withStatus 0, some .onward)
    (arms.foldl (fun (acc : State × Option ArmEnd) arm =>
      let (st, going) := acc
      if !st.isRunning then acc
      else
        match going with
        | none | some .stop => acc
        | some going =>
          let (st, found) :=
            if going = .into then (st, true)
            else matchesAny fuel (if (acc.2 matches some .onward) then st else st) subject arm.patterns
          if found && st.isRunning then (body fuel st arm.body, some arm.ending)
          else (st, some going)) start).1

/-- Does one of the patterns match? -/
def matchesAny : Nat → State → Bytes → List Word → State × Bool
  | 0, st, _, _ => (st.spent, false)
  | fuel + 1, st, subject, patterns =>
    patterns.foldl (fun (acc : State × Bool) w =>
      let (st, found) := acc
      if found || !st.isRunning then acc
      else
        let (st, pieces) := expandAll fuel ⟨false, false⟩ st (atHome st false w)
        let p := wildcardsOf st.knowsGroups pieces
        let p := if st.manners.contains "nocasematch" then p.ignoringCase else p
        (st, st.isRunning && p.matchesAll subject)) (st, false)

/-- What a shell does at its end, if it has been told. -/
def farewell : Nat → State → State
  | 0, st => st.spent
  | fuel + 1, st =>
    match st.traps.lookup 0, st.fate with
    | none, _ | some [], _ | _, .stuck _ | _, .signalled _ => st
    | some script, fate =>
      let code := match fate with
        | .exited code => code
        | _ => st.status
      let traps := st.traps.filter (·.1 ≠ 0)
      let after := runText fuel
        { st with fate := .running, traps, status := code, trapped := some code, caller := none }
        ⟨"", 1, false, false⟩ script
      match after.fate with
      | .running | .returning => { after with fate := .exited code }
      | _ => after

/-- A shell that a signal has struck does what it has been told to do then. -/
def heed : Nat → State → State
  | 0, st => st.spent
  | fuel + 1, st =>
    match st.fate with
    | .signalled n =>
      match st.traps.lookup n with
      | some script =>
        if n = 9 then st
        else
          let after := runText fuel
            { st with fate := .running, status := 0, trapped := some 0, caller := none }
            ⟨"", 1, false, false⟩ script
          let after := { after with trapped := st.trapped, caller := st.caller }
          if after.isRunning then after.withStatus 0 else after
      | none => st
    | _ => st

/-- The stages of a pipeline that starts at one time and is known to last until another; `before` are
the statuses of the stages that have run, last one first. -/
def runStages : Nat → State → Nat → Nat → List Nat → List Command → State
  | 0, st, _, _, _, _ => st.spent
  | _, st, _, _, _, [] => st
  | fuel + 1, st, start, ending, before, [c] =>
    let (st, inner) :=
      if st.manners.contains "lastpipe" then
        let after := run fuel { st with elapsedMs := start } c
        (after, after)
      else
        let inner := farewell fuel (run fuel { st.inside with elapsedMs := start, guarded := st.guarded } c)
        (st.rejoin inner, inner)
    let statuses := (st.status :: before).reverse
    let status := if st.has '|' then ((statuses.filter (· ≠ 0)).getLast?).getD 0 else st.status
    { st with elapsedMs := max ending inner.elapsedMs, statuses, status }
  | fuel + 1, st, start, ending, before, c :: rest =>
    let pipe := Sink.pipe st.pipes
    let inner := { st.inside with pipes := st.pipes + 1, elapsedMs := start }.setSink 1 (some pipe)
    let inner := farewell fuel (run fuel inner c)
    let bytes := inner.written pipe
    let back := st.rejoin (inner.forget pipe)
    let ending := max ending inner.elapsedMs
    match back.fate with
    | .stuck onward =>
      let onward := if onward = [] && 4096 < bytes.length then bytes else onward
      if onward = [] then back
      else
        let next := { back with fate := .running, input := { first := bytes, cycle := onward } }
        let after := runStages fuel next start ending (141 :: before) rest
        { after with input := back.input }
    | .running =>
      let next := { back with input := .ofBytes bytes }
      let after := runStages fuel next start ending (back.status :: before) rest
      { after with input := back.input }
    | _ => back

/-- Runs a body as long as a test says so. -/
def runLoop : Nat → State → Command → Bool → Command → State
  | 0, st, _, _, _ => st.spent
  | fuel + 1, st, test, stopOn, c =>
    let round (acc : State) : State × Bool :=
      let last := acc.statuses
      let st := acc.turn
      if !st.isRunning then (st, false)
      else
        let tested := st.guard (run fuel · test)
        if !tested.isRunning then tested.afterRound
        else if (tested.status = 0) = stopOn then
          ({ tested with status := last.headD 0, statuses := tested.statuses }, false)
        else
          let (st, goesOn) := (body fuel tested c).afterRound
          ({ st with statuses := [st.status] }, goesOn)
    State.rounds round (st.turns + 2) { st with statuses := [0] }

/-- Runs a body for every word, or for every argument. -/
def runEach : Nat → State → List Char → Option (List Word) → Command → List Char → State
  | 0, st, _, _, _, _ => st.spent
  | fuel + 1, st, name, words, c, head =>
    let (st, items) := match words with
      | none => (st, st.args)
      | some words => allFields fuel st words
    if !st.isRunning then st
    else if !isName name then
      checked fuel ((st.complain (Builtins.notAName name)).withStatus 1)
    else
      (st.withStatus 0).looping fun st =>
        (items.foldl (fun (acc : State × Bool) item =>
          if !acc.2 then acc
          else
            let acc := (traced fuel acc.1 head, true)
            let fault (st : State) (said : String) : State := (st.complain said).withStatus 1
            let isFrozen := acc.1.isRich && acc.1.frozen.contains name
            let st := if isFrozen then acc.1.put fault ⟨name, none⟩ false item
              else if acc.1.hasTrait name 'n' then acc.1.set name item
              else acc.1.assign name item
            if isFrozen then (st, false)
            else if st.isRunning then (body fuel st c).afterRound else (st, false)) (st, true)).1

/-- Runs a body for every word that is chosen by its number on the input. An empty line shows the choices
again. -/
def runSelect : Nat → State → List Char → Option (List Word) → Command → List Char → State
  | 0, st, _, _, _, _ => st.spent
  | fuel + 1, st, name, words, c, head =>
    let st := traced fuel st head
    let (st, items) := match words with
      | none => (st, st.args)
      | some words => allFields fuel st words
    if !st.isRunning then st
    else if !isName name then
      checked fuel ((st.complain (Builtins.notAName name)).withStatus 1)
    else if items = [] then st.withStatus 0
    else
      let round (shows : Bool) (st : State) : State × Option Bool :=
        let st := st.turn
        if !st.isRunning then (st, none)
        else
          let st := if shows then st.write 2 (ByteText.toBytes (Builtins.menu st items)) else st
          let st := st.write 2 (ByteText.toBytes ((st.get? "PS3".toList).getD "#? ".toList))
          let st := Builtins.read [] st
          if !st.isRunning then (st, none)
          else if st.status ≠ 0 then ((st.write 1 [newline]).withStatus 1, none)
          else
            let reply := (st.get? "REPLY".toList).getD []
            if reply = [] then (st.withStatus 0, some true)
            else
              let chosen := match Builtins.integer? reply with
                | some (.ofNat (n + 1)) => items[n]?.getD []
                | _ => []
              let st := st.assign name chosen
              if !st.isRunning then (st, none)
              else
                match (body fuel st c).afterRound with
                | (st, true) => (st, some ((st.get? "REPLY".toList).getD [] = []))
                | (st, false) => (st, none)
      (st.withStatus 0).looping fun st =>
        (Progress.rounds round (st.turns + 2) true st)

/-- A loop that counts. -/
def runCount : Nat → State → Word → Word → Word → Command → State
  | 0, st, _, _, _, _ => st.spent
  | fuel + 1, st, start, test, step, c =>
    let value (st : State) (w : Word) : State × Option Int :=
      let (st, text) := joinedText fuel true st w
      if !st.isRunning then (st, none)
      else if text.all Calculation.isBlank then (st, some 1)
      else st.calculate (fun st said => (st.complain ("((: " ++ said)).withStatus 1) text
    match value st start with
    | (st, none) => st
    | (st, some _) =>
      (st.withStatus 0).looping fun st =>
        State.rounds (fun st =>
          let st := st.turn
          if !st.isRunning then (st, false)
          else
            match value st test with
            | (st, none) | (st, some 0) => (st, false)
            | (st, some _) =>
              match (body fuel st c).afterRound with
              | (st, false) => (st, false)
              | (st, true) =>
                match value st step with
                | (st, some _) => (st, true)
                | (st, none) => (st, false)) (st.turns + 2) st

/-- The outcome of a condition, or what is wrong with it. -/
def ask : Nat → State → List Char → Condition Word → State × Except String Bool
  | 0, st, _, _ => (st.spent, .ok false)
  | fuel + 1, st, lead, c =>
    match c with
    | .word a =>
      let (st, text) := textOf fuel false st a
      let st := traced fuel st (lead ++ "-n ".toList ++ shownIn text ++ " ]]".toList)
      (st, .ok (text ≠ []))
    | .unary operator a =>
      let (st, text) := textOf fuel false st a
      let st := traced fuel st (lead ++ operator.toList ++ ' ' :: shownIn text ++ " ]]".toList)
      (st, (Builtins.Asker.shell st false).unary operator (ByteText.shown text))
    | .inner c => ask fuel st lead c
    | .not c =>
      let (st, outcome) := ask fuel st (lead ++ ['!', ' ']) c
      (st, outcome.map (!·))
    | .both a b =>
      match ask fuel st lead a with
      | (st, .ok true) => ask fuel st lead b
      | found => found
    | .either a b =>
      match ask fuel st lead a with
      | (st, .ok false) => ask fuel st lead b
      | found => found
    | .binary operator a b =>
      let (st, left) := textOf fuel false st a
      let between (left : List Char) (operator : String) (right : List Char) : List Char :=
        lead ++ shownIn left ++ ' ' :: operator.toList ++ ' ' :: shownIn right ++ " ]]".toList
      let ignoring (st : State) (p : Pattern) : Pattern :=
        if st.manners.contains "nocasematch" then p.ignoringCase else p
      if ["=", "==", "!="].contains operator then
        let (st, pieces) := expandAll fuel ⟨false, false⟩ st (atHome st false b)
        let st := traced fuel st (between left operator (pieces.flatMap fun piece =>
          if piece.isQuoted then escapedWhole piece.chars else piece.chars))
        let found := (ignoring st (wildcardsOf true pieces)).matchesAll (ByteText.toBytes left)
        (st, .ok (found != (operator = "!=")))
      else if operator = "=~" then
        let (st, pieces) := expandAll fuel ⟨false, false⟩ st b
        let text := pieces.flatMap fun piece =>
          if piece.isQuoted then escapedRegex piece.chars else piece.chars
        let st := traced fuel st (between left operator text)
        match Pattern.ofRegex .extended (ByteText.toBytes text) with
        | .error _ => (st, .error "")
        | .ok p =>
          match (ignoring st p).find? (.ofText (ByteText.toBytes left)) with
          | none => (st.setList "BASH_REMATCH".toList (.ofList []), .ok false)
          | some (s, e) =>
            let whole := ByteText.ofBytes (s.upTo e)
            let groups := (List.range p.groupCount).map fun i => ByteText.ofBytes ((e.captured? (i + 1)).getD [])
            (st.setList "BASH_REMATCH".toList (.ofList (whole :: groups)), .ok true)
      else
        let (st, right) := textOf fuel false st b
        let st := traced fuel st (between left operator right)
        match Conditions.comparison? operator with
        | some f =>
          let fault (st : State) (said : String) : State := (st.complain ("[[: " ++ said)).withStatus 1
          match st.calculate fault left with
          | (st, none) => (st, .ok false)
          | (st, some m) =>
            match st.calculate fault right with
            | (st, none) => (st, .ok false)
            | (st, some n) => (st, .ok (f m n))
        | none =>
          (st, (Builtins.Asker.shell st false).binary (ByteText.shown left) operator (ByteText.shown right))

/-- What a talkative shell begins its lines with: a variable, in which there may be expansions. In the rich
dialect the first character tells how deep the commands are. -/
def traceLead : Nat → State → List Char
  | 0, _ => []
  | fuel + 1, st =>
    let text := (st.get? "PS4".toList).getD ['+', ' ']
    let text :=
      if text.contains '$' || text.contains (Char.ofNat 96) then
        match Script.parts? st.dialect text with
        | some w => (joinedText fuel true { st with options := st.options.filter (· ≠ 'x') } w).2
        | none => text
      else text
    if st.isRich then List.replicate (st.levels - 1) (text.headD '+') ++ text else text

/-- The rich dialect shows the beginnings of compound commands when it is talkative. -/
def traced : Nat → State → List Char → State
  | 0, st, _ => st
  | fuel + 1, st, text =>
    if st.isRich && st.has 'x' then st.write 2 (ByteText.toBytes (traceLead fuel st ++ text ++ ['\n']))
    else st

/-- A simple command: its words are expanded, its redirections and settings made, and then it runs
inside of them. -/
def runSimple : Nat → State → List (Setting Word) → List Word → List (Setting Word) →
    List (Redirect Word) → State
  | 0, st, _, _, _, _ => st.spent
  | fuel + 1, st, settings, words, declared, rs =>
    let (st, names) := namesOf fuel st words declared
    if !st.isRunning then st
    else
      let (called, isRun) := withoutRunners names
      let text := String.ofList (called.headD [])
      let isSpecial := !st.isRich && !isRun && names ≠ [] && Builtins.isSpecial .plain text
      let (inner, done) := redirectAll fuel st rs
      if !inner.isRunning then inner
      else if !done then
        let back := st.leaveRedirects inner rs
        if isSpecial then { back with fate := .abandoned } else back
      else
        let stays := isSpecial || names = []
        let saved := if stays then [] else settings.map fun s => st.save s.name
        let before := if inner.isRich && inner.has 'x' then traceLead fuel inner else []
        let inner := settleAll fuel inner settings
        if !inner.isRunning then inner
        else
          let inner := if names = [] || (isSpecial && !(text = "exec" && 1 < called.length)) then inner
            else settings.foldl (fun (inner : State) s => inner.expose s.name) inner
          let inner :=
            if !inner.has 'x' || (settings = [] && names = []) then inner
            else trace (if inner.isRich then before else traceLead fuel inner) st inner settings names
          let after :=
            match called with
            | [] => inner.withStatus (inner.substituted.getD 0)
            | name :: args => runNamed fuel inner isRun text name args
          let after := declared.foldl (fun (after : State) s =>
            match s.value with
            | .list items => if after.isRunning then settleList fuel after s items else after
            | .word _ => after) after
          let after :=
            if after.fate = .abandoned && !isSpecial && !st.isRich && Builtins.isKnownName .plain text &&
              (isRun || (st.functions.lookup (called.headD [])).isNone)
            then { after with fate := .running }
            else after
          let back := if text = "exec" then after else st.leaveRedirects after rs
          let back := if st.isRich then { back with statuses := [back.status] } else back
          saved.foldl State.bringBack back

/-- Runs what a name stands for, the commands that run others first. `isRun` says that another command
runs this one, so that no function is meant. -/
def runNamed : Nat → State → Bool → String → List Char → List (List Char) → State
  | 0, st, _, _, _, _ => st.spent
  | fuel + 1, st, isRun, text, name, args =>
    let isFirst := !st.isRich && Builtins.isSpecial .plain text
    match (if isRun || isFirst then none else st.functions.lookup name) with
    | some f => runFunction fuel st name args f
    | none =>
      if st.disabled.contains text then runProgram fuel st false name args
      else
      match text with
      | "eval" => runEval fuel st args
      | "." => runFile fuel st text args
      | "exec" => runExec fuel st args
      | "command" => runCommand fuel st args
      | "type" => Builtins.type args st
      | "mapfile" | "readarray" =>
        if !st.isRich then runProgram fuel st false name args
        else
          let (st, fillings) := Builtins.fillings text args st
          fillings.foldl (fun (st : State) f =>
            let st :=
              if f.script = [] || !st.isRunning then st
              else
                (runText fuel st ⟨ByteText.shown st.origin ++ ": line ", st.line, false, false⟩ f.script
                  ).withStatus 0
            if st.isRunning then st.place f.place f.value else st) st
      | "source" => if st.isRich then runFile fuel st text args else runProgram fuel st false name args
      | "builtin" =>
        if !st.isRich then runProgram fuel st false name args
        else
          match args with
          | [] => st.withStatus 0
          | inner :: rest =>
            if Builtins.isKnownName .rich (String.ofList inner) && !st.disabled.contains (String.ofList inner) then
              runNamed fuel st true (String.ofList inner) inner rest
            else
              Builtins.fails "builtin" (ByteText.shown inner ++ ": not a shell builtin") 1 st
      | text =>
        match Builtins.find? st.dialect text with
        | some builtin => heed fuel (builtin args st)
        | none => runProgram fuel st false name args

/-- Runs a function. -/
def runFunction : Nat → State → List Char → List (List Char) → Routine → State
  | 0, st, _, _, _ => st.spent
  | fuel + 1, st, name, args, f =>
    let st := st.turn
    if !st.isRunning then st
    else if !st.isRich && State.deepest ≤ st.depth then
      { st with caller := none }.collapse "Maximum function recursion depth (1000) reached"
    else st.leaveFunction (run fuel (st.enterFunction name args f) f.body)

/-- Runs its arguments as a script. -/
def runEval : Nat → State → List (List Char) → State
  | 0, st, _ => st.spent
  | fuel + 1, st, args =>
    let args := if args.head? = some ['-', '-'] then args.tail else args
    let text := [' '].intercalate args
    if st.isRich then
      let lead := ByteText.shown st.origin ++ ": eval: line "
      let after := runText fuel { st with levels := st.levels + 1 } ⟨lead, st.line, false, false⟩ text
      { after with line := st.line, levels := st.levels }
    else
      st.calledBy "eval" fun st => runText fuel st ⟨"", 1, false, false⟩ text

/-- Becomes another program; without one the redirections stay. -/
def runExec : Nat → State → List (List Char) → State
  | 0, st, _ => st.spent
  | fuel + 1, st, args =>
    let args := if args.head? = some ['-', '-'] then args.tail else args
    match args with
    | [] => st.withStatus 0
    | ['-', 'a'] :: shown :: name :: rest =>
      if st.isRich then becoming fuel { st with found := st.found } name shown rest
      else becoming fuel st ['-', 'a'] ['-', 'a'] (shown :: name :: rest)
    | name :: rest => becoming fuel st name name rest

/-- Runs a program in place of the shell. -/
def becoming : Nat → State → List Char → List Char → List (List Char) → State
  | 0, st, _, _, _ => st.spent
  | fuel + 1, st, name, _, args =>
    let text := ByteText.shown name
    match st.program text with
    | .ok (program, _) =>
      let after := runFound fuel { st with traps := st.inside.traps } program name args
      { after with
        traps := []
        fate := if after.isRunning then .exited after.status else after.fate }
    | .error e =>
      let (said, code) := if st.isRich then richRefusal st text e else plainRefusal text e
      let said := if st.isRich && code = 127 then text ++ ": not found" else said
      let st := st.complain ("exec: " ++ said)
      { st with fate := .exited (if code = 127 && e = .permission then 126 else code) }

/-- Runs a command, or says how it would be called. -/
def runCommand : Nat → State → List (List Char) → State
  | 0, st, _ => st.spent
  | fuel + 1, st, args =>
    Builtins.reading "command" false "pvV" "command [-pVv] command [arg ...]" args st fun found rest =>
      match rest with
      | [] => st.withStatus 0
      | name :: args =>
        if Builtins.asked found 'V' then
          Builtins.explainBy "command" true (if st.isRich then rest else [name]) st
        else if Builtins.asked found 'v' then
          Builtins.explainBy "command" false (if st.isRich then rest else [name]) st
        else runNamed fuel st true (String.ofList name) name args

/-- Runs the script in a file. -/
def runFile : Nat → State → String → List (List Char) → State
  | 0, st, _, _ => st.spent
  | fuel + 1, st, who, args =>
    Builtins.reading who true "" (who ++ " filename [arguments]") args st fun _ rest =>
      match rest with
      | [] =>
        if st.isRich then
          Builtins.misused who "filename argument required" (who ++ " filename [arguments]") st
        else st.withStatus 0
      | name :: args =>
        match scriptNamed st name with
        | .error said => st.abort (".: " ++ said)
        | .ok path =>
          match Flow.named st.files st.input (ByteText.shown (ByteText.ofBytes path)) with
          | .ok flow =>
            let shown := ByteText.ofBytes path
            let script := ByteText.ofBytes (flow.first.filter (· ≠ 0))
            if st.isRich then
              let lead := ByteText.shown shown ++ ": line "
              let given := if args = [] then st.args else args
              let calls := ⟨"source".toList, shown, st.line⟩ :: st.calls
              let after := runText fuel
                { st with origin := shown, args := given, depth := st.depth + 1, calls, levels := st.levels + 1 }
                ⟨lead, 1, true, false⟩ script
              { after with
                origin := st.origin
                args := if args = [] then after.args else st.args
                depth := st.depth
                calls := st.calls
                levels := st.levels
                line := st.line
                fate := if after.fate = .returning then .running else after.fate }
            else
              let after := st.calledBy (ByteText.shown shown) fun st =>
                runText fuel st ⟨"", 1, false, false⟩ script
              { after with fate := if after.fate = .returning then .running else after.fate }
          | .error e =>
            if st.isRich then (st.complain (ByteText.shown name ++ ": " ++ e.reason)).withStatus 1
            else if e = .isDirectory then st.withStatus 0
            else st.abort (".: " ++ st.redirectionFailure false (ByteText.shown name) e)

/-- Runs a program; `quiet` says that it has been looked for before. -/
def runProgram : Nat → State → Bool → List Char → List (List Char) → State
  | 0, st, _, _, _ => st.spent
  | fuel + 1, st, _, name, args =>
    let text := ByteText.shown name
    match st.program text with
    | .ok (program, _) =>
      let after := runFound fuel (st.remember name) program name args
      let isAlarm := after.defied && !st.defied && (program matches .tool _)
      if isAlarm then heed fuel { after.buried with fate := after.fate } else after.buried
    | .error e =>
      let (said, code) := if st.isRich then richRefusal st text e else plainRefusal text e
      (st.object said).withStatus code

/-- A program that was found. -/
def runFound : Nat → State → Program → List Char → List (List Char) → State
  | 0, st, _, _, _ => st.spent
  | fuel + 1, st, program, name, args =>
    match program with
    | .tool tool => st.runTool (((ByteText.shown name).splitOn "/").getLast?.getD "") tool args
    | .doubled text => Builtins.testTool text (args.map ByteText.shown) st
    | .runner text =>
      let after := runRunner fuel (forProgram st) text args
      { after with vars := st.vars, exported := st.exported }
    | .shell text => st.rejoin (runShell fuel (forProgram st) text name args)
    | .script path reader =>
      let args := ByteText.ofBytes path :: args
      match reader with
      | none => st.rejoin (runShell fuel (forProgram st) (if st.isRich then "bash" else "sh") name args)
      | some (reader, argument) =>
        match Program.inFile st.files reader with
        | .error _ => st.withStatus 127
        | .ok program =>
          runFound fuel st program (ByteText.ofBytes reader) ((argument.map ByteText.ofBytes).toList ++ args)

/-- A program that runs another one, with what it does around it. -/
def runRunner : Nat → State → String → List (List Char) → State
  | 0, st, _, _ => st.spent
  | fuel + 1, st, name, args =>
    let words := args.map ByteText.shown
    match name with
    | "env" =>
      match Runner.Surroundings.ofArgs st.get? words with
      | .error text => st.fails text 125
      | .ok s =>
        match st.surrounded s with
        | .error text => st.fails text 125
        | .ok within =>
          if s.command = [] then
            within.showVariables (if s.options.has "null" then '\x00' else '\n') []
          else runOther fuel within Runner.envFailure s.command
    | "nice" =>
      match Runner.niceArgs words with
      | .error text => st.fails text 125
      | .ok (_, []) => (st.write 1 (Bytes.ofString (toString st.niceness ++ "\n"))).withStatus 0
      | .ok (amount, rest) =>
        let niceness := max (-20) (min 19 (st.niceness + amount.getD 10))
        let after := runOther fuel { st with niceness } (Runner.quotedFailure "nice: ") rest
        { after with niceness := st.niceness }
    | "timeout" =>
      match Runner.Limit.ofArgs words with
      | .error text => st.fails text 125
      | .ok l =>
        let within := { st with alarm := l.alarm? st.elapsedMs, defied := false }
        let after := runOther fuel within (Runner.quotedFailure "timeout: failed to run command ") l.command
        after.within st l
    | "xargs" =>
      match Runner.Xargs.ofArgs words with
      | .error text => st.fails text 1
      | .ok x =>
        let st := x.warnings.foldl (fun (st : State) text => st.write 2 (Bytes.ofString (text ++ "\n"))) st
        match x.source.map fun name => (name, Flow.named st.files st.input name) with
        | some (name, .error e) =>
          st.fails ("xargs: Cannot open input file " ++ Quoting.value name ++ ": " ++ e.reason) 1
        | some (name, .ok flow) =>
          let input := if name = "-" || name = "/dev/stdin" then .empty else st.input
          runErrands fuel { st with input } x (x.errands flow.first)
        | none => runErrands fuel { st with input := .empty } x (x.errands st.input.first)
    | "nohup" =>
      match Runner.nohupArgs words with
      | .error text => st.fails text 125
      | .ok words => runOther fuel st (Runner.quotedFailure "nohup: failed to run command ") words
    | "stdbuf" =>
      match Runner.stdbufArgs words with
      | .error text => st.fails text 125
      | .ok words => runOther fuel st (Runner.quotedFailure "stdbuf: failed to run command ") words
    | "setsid" =>
      match Runner.setsidArgs words with
      | .error text => st.fails text 1
      | .ok words => runOther fuel st (fun text e =>
          "setsid: failed to execute " ++ text ++ ": " ++ e.reason) words
    | "awk" | "mawk" | "nawk" =>
      let shell (name : String) (inner : State) (script : List Char) : State :=
        inner.rejoin (runShell fuel (forProgram inner) "sh" name.toList [['-', 'c'], script])
      Awk.run shell st words
    | "sed" =>
      let shell (files : Files.System) (command : Bytes) : Sed.Echo :=
        let (out, err) := (Sink.pipe st.pipes, Sink.pipe (st.pipes + 1))
        let within := ({ st with files, input := .empty, pipes := st.pipes + 2 }.setSink 1 (some out)).setSink 2
          (some err)
        let after := within.rejoin (runShell fuel (forProgram within) "sh" "sh".toList
          [['-', 'c'], ByteText.ofBytes command])
        ⟨after.written out, after.written err, after.files⟩
      st.runTool "sed" (Tools.sedWith shell) args
    | "find" =>
      let run (inner : State) (words : List String) : State :=
        runOther fuel inner (fun text e => "find: " ++ Quoting.always text ++ ": " ++ e.reason) words
      Finding.run ⟨run⟩ st words
    | _ => st.printVariables words

/-- Another program, found under its name; `failure` says what is told when there is none. -/
def runOther : Nat → State → (String → Files.Error → String) → List String → State
  | 0, st, _, _ => st.spent
  | _, st, _, [] => st
  | fuel + 1, st, failure, text :: rest =>
    match st.program text with
    | .error e => st.fails (failure text e) (if e = .permission then 126 else 127)
    | .ok (program, _) =>
      runFound fuel st program (ByteText.ofString text) (rest.map ByteText.ofString)

/-- Does an errand; `worst` is the status so far. Without one afterwards, nothing more is done. -/
def runErrand : Nat → State → Runner.Xargs → Nat → Runner.Errand → State × Option Nat
  | 0, st, _, _, _ => (st.spent, none)
  | _, st, _, worst, .warn text => (st.write 2 (Bytes.ofString (text ++ "\n")), some worst)
  | _, st, _, _, .quit => (st.withStatus 1, none)
  | fuel + 1, st, x, worst, .run words =>
    let shown := " ".intercalate (words.map Quoting.name)
    let st := if x.traces then
        st.write 2 (Bytes.ofString (shown ++ if x.asks then "" else "\n")) else st
    if x.asks then
      (st.fails "xargs: failed to open /dev/tty for reading: No such device or address" 1, none)
    else
      let name := words.headD ""
      match st.program name with
      | .error e =>
        (st.fails ("xargs: " ++ name ++ ": " ++ e.reason) (if e = .noEntry then 127 else 126), none)
      | .ok (program, _) =>
        let input := if x.source.isSome then st.input else .empty
        let within := match x.slot with
          | some name => (st.settle (name ++ "=0")).expose (ByteText.ofString name)
          | none => st
        let after := runFound fuel { within with input } program (ByteText.ofString name)
          ((words.drop 1).map ByteText.ofString)
        let after := { after with vars := st.vars, exported := st.exported }
        match after.fate with
        | .signalled n =>
          ({ after with fate := .running }.fails
            ("xargs: " ++ name ++ ": terminated by signal " ++ n.repr) 125, none)
        | _ =>
          if !after.isRunning then (after, none)
          else if after.status = 255 then
            (after.fails ("xargs: " ++ name ++ ": exited with status 255; aborting") 124, none)
          else (after, some (if after.status = 0 then worst else 123))

/-- Does errands one after the other, as long as nothing fails badly. -/
def runErrands : Nat → State → Runner.Xargs → List Runner.Errand → State
  | 0, st, _, _ => st.spent
  | fuel + 1, st, x, errands =>
    let (st, worst) := errands.foldl (fun (acc : State × Option Nat) errand =>
      match acc with
      | (st, none) => (st, none)
      | (st, some worst) => runErrand fuel st x worst errand) (st, some 0)
    match worst with
    | some worst => st.withStatus worst
    | none => st

/-- A shell that is started under a name with arguments. -/
def runShell : Nat → State → String → List Char → List (List Char) → State
  | 0, st, _, _, _ => st.spent
  | fuel + 1, st, program, name, args =>
    let dialect : Dialect := if program = "bash" then .rich else .plain
    let st := st.asShell dialect name
    match Call.read dialect [] args ⟨st.options, st.manners, false, []⟩ with
    | .error said =>
      if dialect = .rich then
        (st.write 2 (Bytes.ofString (ByteText.shown name ++ ": " ++ said ++ "\n"))).withStatus 2
      else st.abort said
    | .ok call =>
      let st := { st with options := call.options, manners := call.manners }
      farewell fuel (runScript fuel st call)

/-- Runs the script of a shell: an operand, a file or the input. -/
def runScript : Nat → State → Call → State
  | 0, st, _ => st.spent
  | fuel + 1, st, call =>
    let told (st : State) : String := ByteText.shown st.name ++ ": line "
    if call.isCommand then
      match call.operands with
      | [] =>
        if st.isRich then
          (st.write 2 (Bytes.ofString (ByteText.shown st.name ++
            ": -c: option requires an argument\n"))).withStatus 2
        else st.abort "-c requires an argument"
      | script :: rest =>
        let name := rest.headD st.name
        let st := { st with name, origin := name, args := rest.drop 1 }
        let st := if st.isRich then { st with options := 'c' :: st.options } else st
        runText fuel st ⟨ByteText.shown name ++ ": -c: line ", 1, false, false⟩ script
    else
      match (if call.options.contains 's' then [] else call.operands) with
      | [] =>
        if st.input.isEndless then st.spent
        else
          let script := ByteText.ofBytes (st.input.first.filter (· ≠ 0))
          let args := if call.options.contains 's' then call.operands else []
          let st := { st with args, options := 's' :: st.options.filter (· ≠ 's') }
          if st.isRich then runText fuel st ⟨told st, 1, true, true⟩ script
          else runText fuel { st with input := .empty } ⟨told st, 1, false, false⟩ script
      | file :: rest =>
        let text := ByteText.shown file
        match Flow.named st.files st.input text with
        | .ok flow =>
          if flow.isEndless then st.spent
          else
            let st := { st with name := file, origin := file, args := rest, calls := [⟨"main".toList, file, 0⟩] }
            let st := if text = "/dev/stdin" then { st with input := .empty } else st
            runText fuel st ⟨told st, 1, st.isRich, false⟩
              (ByteText.ofBytes (flow.first.filter (· ≠ 0)))
        | .error e =>
          if st.isRich then
            let said := if e = .isDirectory then text ++ ": " ++ text ++ ": Is a directory"
              else ByteText.shown st.name ++ ": " ++ text ++ ": " ++ e.reason
            { st.write 2 (Bytes.ofString (said ++ "\n")) with
              fate := .exited (if e = .isDirectory then 126 else 127) }
          else st.abort (st.redirectionFailure false text e)

/-- Reads and runs a text line by line. -/
def runText : Nat → State → Reading → List Char → State
  | 0, st, _, _ => st.spent
  | fuel + 1, st, r, text =>
    let text := if st.isRich && text ≠ [] && text.getLast? ≠ some '\n' then text ++ ['\n'] else text
    let step (p : Progress) : Progress × Bool :=
      let st := p.state
      if !st.isRunning || p.source.rest = [] then (p, false)
      else
        let usesAliases := !st.isRich || st.manners.contains "expand_aliases"
        let source := { p.source with
          aliases := if usesAliases then st.aliases else []
          extended := st.manners.contains "extglob"
          serial := st.serial }
        match source.nextLine with
        | .error flaw => ({ p with state := flawed st r flaw }, false)
        | .ok (c, source) =>
          let st := { st with
            documents := source.documents ++ st.documents
            serial := source.serial
            readLine := source.line }
          let st := warned st r source.cutOff
          let shown := p.source.rest.take (p.source.rest.length - source.rest.length)
          let st := if st.has 'v' then st.write 2 (ByteText.toBytes shown) else st
          let st := if r.isLive then { st with input := .ofBytes (ByteText.toBytes source.rest) } else st
          let isEmpty := c matches .sequence []
          let st := if isEmpty then st else run fuel st c
          let st := if r.recovers then st.recovered else st
          let source := { source with documents := [] }
          let source := if r.isLive then { source with rest := ByteText.ofBytes st.input.first } else source
          (⟨st, source, p.ran || !isEmpty⟩, true)
    let last := Progress.steps step (text.length + 1) ⟨st, .start st.dialect text r.line, false⟩
    if last.state.isRunning && !last.ran then last.state.withStatus 0 else last.state

end

end Scratchpad.Shell
