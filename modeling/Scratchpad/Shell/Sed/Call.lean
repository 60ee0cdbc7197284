import Scratchpad.Files.Removal
import Scratchpad.Shell.Sed.Run

/-!
# The stream editor as a tool

What the editor is told by its arguments, where the texts of its program come from, and what becomes
of the files it works on: it copies what it has made of them, or puts it in their place.
-/

namespace Scratchpad.Shell.Tools

open Deed (complaint ofWrites passing told waiting)

def sedForms : List OptionForm :=
  [.flag 'n' "quiet", .longFlag "silent", .valued 'e' "expression", .valued 'f' "file",
    .flag 'E' "regexp-extended", .flag 'r' "regexp-extended", ⟨some 'i', "in-place", .perhaps⟩,
    .flag 's' "separate", .flag 'z' "null-data", .flag 'u' "unbuffered", .valued 'l' "line-length",
    .flag 'b' "binary", .longFlag "posix", .longFlag "debug", .longFlag "sandbox",
    .longFlag "follow-symlinks"]

def sedUsage : String :=
  "Usage: sed [OPTION]... \x7bscript-only-if-no-other-script\x7d [input-file]..."

/-- A text that a program is made of, and the file it comes from if it was not an argument. -/
structure ScriptText where
  file : Option String
  bytes : Bytes

/-- The texts of a program, which are as many lines or more. -/
def sedTexts (s : Scene) (found : Options) : Except String (List ScriptText) :=
  (found.filter fun (name, _) => name = "expression" || name = "file").mapM fun (name, value) =>
    if name = "expression" then .ok ⟨none, Bytes.ofString value⟩
    else
      match (if value = "-" then .ok s.input else Flow.named s.files s.input value) with
      | .ok flow =>
        let bytes := flow.first
        .ok ⟨some value, if bytes.getLast? = some newline then bytes.dropLast else bytes⟩
      | .error .isDirectory => .ok ⟨some value, []⟩
      | .error e => .error ("couldn't open file " ++ value ++ ": " ++ e.reason)

/-- Where a place of a program lies: the texts before, the one it is in, and the byte of it. -/
def scriptPlace : Nat → List ScriptText → List ScriptText → Nat → List ScriptText × Option ScriptText × Nat
  | 0, done, _, position => (done, none, position)
  | _, done, [], position => (done, none, position)
  | _, done, [text], position => (done, some text, position)
  | fuel + 1, done, text :: rest, position =>
    if position ≤ text.bytes.length then (done, some text, position)
    else scriptPlace fuel (text :: done) rest (position - text.bytes.length - 1)

def sedFault (texts : List ScriptText) (f : Sed.Fault) : Nat × String :=
  let total := ([newline].intercalate (texts.map ScriptText.bytes)).length
  let placed (left : Nat) (anywhere : Bool) (what : String) : String :=
    let (before, text?, position) := scriptPlace (texts.length + 1) [] texts (total - left)
    match text? with
    | some ⟨some file, bytes⟩ =>
      "sed: file " ++ file ++ " line " ++ ((bytes.take position).count newline + 1).repr ++ ": " ++ what
    | _ =>
      "sed: -e expression #" ++ ((before.filter fun t => t.file.isNone).length + 1).repr ++ ", char " ++
        (if anywhere then 0 else position).repr ++ ": " ++ what
  match f with
  | .at text left => (1, placed left false text)
  | .opened text left => (1, placed left true text)
  | .classPlace => (1, "sed: " ++ Pattern.Fault.classPlace.message)
  | .label name =>
    (4, "sed: can't find label for jump to `" ++ String.ofList (Text.Utf8.lossy name) ++ "'")

/-- A file that a program writes to and that cannot be opened, and why. -/
def blockedTarget? (files : Files.System) (program : Array Sed.Edit) : Option (String × Files.Error) :=
  program.toList.findSome? fun e =>
    let name? := match e.action with
      | .writeFile name _ => some name
      | .substitute s => s.target
      | _ => none
    name?.bind fun name =>
      let shown := String.ofList (Text.Utf8.lossy name)
      if shown = "/dev/stdout" || shown = "/dev/stderr" then none
      else
        match files.write name [] with
        | .ok _ => none
        | .error e => some (shown, e)

/-- A program that is to be run, with its options. -/
structure EditingJob where
  scene : Scene
  found : Options
  program : Array Sed.Edit
  manner : Sed.Manner

namespace EditingJob

def linesOf (j : EditingJob) (name : String) (bytes : Bytes) : List Sed.Line :=
  Sed.linesIn j.manner.mark name bytes

/-- What an editor has done, with the files it has written. -/
def deed (j : EditingJob) (f : Found) (d : Sed.Desk) : Deed :=
  let files := d.written.foldl (fun (files : Files.System) (name, pieces) =>
    (files.write name pieces.reverse.flatten).toOption.getD files) d.files
  let wrong := d.fault.map fun text => told ("sed: -e expression #1, char 0: " ++ text)
  { ofWrites j.scene (f.errors ++ wrong.toList ++ d.out.reverse)
      (if wrong.isSome then 1 else d.code.getD (if f.isFine then 0 else 2)) with
    unread := f.unread
    files := some files }

/-- The name under which a file is kept that is edited: a star in a suffix stands for the name. -/
def keptName (suffix name : String) : String :=
  if !suffix.contains '*' then name ++ suffix
  else
    let base := ((name.splitOn "/").getLast?).getD name
    let folder := String.ofList (name.toList.take (name.length - base.length))
    let filled := base.intercalate (suffix.splitOn "*")
    if suffix.contains '/' then filled else folder ++ filled

/-- Edits a file on its own, behind what was done before, and may put the result in its place. The
answer tells also whether the program has quit. -/
def alone (j : EditingJob) (before : Deed) (name : String) (bytes : Bytes) : Deed × Bool :=
  let files := before.files.getD j.scene.files
  match Sed.run j.program { j.manner with files } (j.linesOf name bytes) with
  | none => ({ before with code := none }, true)
  | some d =>
    let own := j.deed ⟨[], [], before.unread⟩ d
    let files := own.files.getD files
    let code := if own.code = some 0 then before.code else own.code
    let quits := d.code.isSome || d.fault.isSome
    if j.found.has "in-place" && name ≠ "-" then
      let out := (own.writes.filter (·.1 = .out)).flatMap (·.2)
      let suffix := (j.found.value? "in-place").getD ""
      let path := Files.Path.ofString name
      let old := (files.node? path).toOption.getD (.file (files.fresh 0o666) bytes)
      let kept := if suffix = "" then files
        else (files.put (Files.Path.ofString (keptName suffix name)) old).toOption.getD files
      ({ before with
        writes := before.writes ++ own.writes.filter (·.1 = .err)
        files := some (kept.supplant path out)
        code }, quits)
    else
      let mark := j.manner.mark
      let lacksEnd := ((before.writes.flatMap (·.2)).getLast?).any (· ≠ mark)
      let gap := if lacksEnd then [(Outlet.out, [mark])] else []
      ({ before with writes := before.writes ++ gap ++ own.writes, files := some files, code }, quits)

/-- Edits an input without end: line by line if the program does the same to every line, and else as
much of it as tells whether the program quits. -/
def endless (j : EditingJob) (input : Flow) : Deed :=
  if j.program.all Sed.Edit.isForEveryLine then
    let edited (bytes : Bytes) : Bytes :=
      match Sed.run j.program j.manner (j.linesOf "-" bytes) with
      | some d => (d.out.reverse.filter (·.1 = .out)).flatMap (·.2)
      | none => []
    passing { first := edited input.first, cycle := edited input.cycle } .empty 0
  else
    let start := (input.unroll (input.first.length + 4096 * input.cycle.length)).first
    match Sed.run j.program j.manner (j.linesOf "-" start) with
    | none => waiting
    | some d =>
      let deed := j.deed ⟨[], [], .empty⟩ d
      if d.code.isSome then deed else { deed with code := none }

/-- Edits files one by one until the program quits, which the answer tells also. -/
def each (j : EditingJob) (start : Deed) (texts : List (String × Bytes)) : Deed × Bool :=
  texts.foldl (fun (deed, quits) (name, bytes) =>
    if quits then (deed, quits) else j.alone deed name bytes) (start, false)

def isFolder (j : EditingJob) (name : String) : Bool :=
  match Flow.named j.scene.files .empty name with
  | .error .isDirectory => true
  | _ => false

/-- Edits files as one text, or one by one. A directory among them ends the editor when it gets
there. -/
def copying (j : EditingJob) (blame : Blame) (names : List String) : Deed :=
  let readable := names.takeWhile (!j.isFolder ·)
  let broken := (names.drop readable.length).head?.map fun name =>
    told ("sed: read error on " ++ name ++ ": Is a directory")
  if readable = [] then ofWrites j.scene broken.toList 4
  else
    finding j.scene "sed" blame readable fun f =>
      let (deed, quits) :=
        if j.found.has "separate" then
          j.each { f.answer [] with code := some (if f.isFine then 0 else 2) } f.texts
        else
          match Sed.run j.program j.manner (f.texts.flatMap fun (name, bytes) => j.linesOf name bytes) with
          | none => (waiting, true)
          | some d => (j.deed f d, d.code.isSome || d.fault.isSome)
      if broken.isNone || quits then deed
      else { deed with writes := deed.writes ++ broken.toList, code := some 4 }

/-- Edits files in their places. -/
def replacing (j : EditingJob) (blame : Blame) (names : List String) : Deed :=
  finding j.scene "sed" blame names fun f =>
    let code := if f.isFine then 0 else if names.any j.isFolder then 4 else 2
    (j.each { f.answer [] with code := some code } f.texts).1

/-- Edits what the operands name. -/
def go (j : EditingJob) (operands : List String) : Deed :=
  let s := j.scene
  let blame : Blame := fun name e =>
    if e = .isDirectory then "couldn't edit " ++ name ++ ": not a regular file"
    else "can't read " ++ name ++ ": " ++ e.reason
  match blockedTarget? s.files j.program with
  | some (name, e) => complaint s ("sed: couldn't open file " ++ name ++ ": " ++ e.reason) 4
  | none =>
    if operands.isEmpty && j.found.has "in-place" then complaint s "sed: no input files" 4
    else if s.input.isEndless && (operands.isEmpty || operands = ["-"]) then j.endless s.input
    else if j.found.has "in-place" then j.replacing blame operands
    else j.copying blame (if operands = [] then ["-"] else operands)

end EditingJob

/-- Edits its input; `shell` does the commands that the program has. -/
def sedWith (shell : Files.System → Bytes → Sed.Echo) (s : Scene) : Deed :=
  match Options.read sedForms s.args with
  | .error f => complaint s ("sed: " ++ f.message ++ "\n" ++ sedUsage) 1
  | .ok (found, operands) =>
    match sedTexts s found with
    | .error text => complaint s ("sed: " ++ text) 4
    | .ok given =>
      let (texts, operands) : List ScriptText × List String := if given.isEmpty then
          ((operands.take 1).map fun text => ⟨none, Bytes.ofString text⟩, operands.drop 1)
        else (given, operands)
      if texts.isEmpty then complaint s sedUsage 1
      else
        let text := [newline].intercalate (texts.map ScriptText.bytes)
        let how : Sed.Reading :=
          { extended := found.has "regexp-extended", confined := found.has "sandbox" }
        match Sed.read how text with
        | .error f =>
          let (code, text) := sedFault texts f
          complaint s text code
        | .ok program =>
          let manner : Sed.Manner :=
            { silent := found.has "quiet" || found.has "silent" || [0x23, 0x6E].isPrefixOf text
              mark := lineEnd found "null-data"
              width := ((found.value? "line-length").bind fun t => decimal? t.toList).getD 70
              files := s.files
              input := s.input.first
              traces := found.has "debug" && !found.has "in-place"
              shell }
          let d := EditingJob.go ⟨s, found, program, manner⟩ operands
          if found.has "debug" then
            { d with writes := (.out, Sed.shownProgram program.toList) :: d.writes }
          else d

/-- Edits its input without a shell. -/
def sed (s : Scene) : Deed :=
  sedWith (fun files _ => ⟨[], [], files⟩) s

end Scratchpad.Shell.Tools
