import Scratchpad.Shell.Tools.Basic

/-!
# Tools that copy

The tools that copy what they read, all of it or its beginning or end, to their output and to files.
-/

namespace Scratchpad.Shell.Tools

open Deed (complaint ofWrites passing told waiting)

/-! ## Everything -/

/-- What `cat` does to a line: makes its bytes visible, and marks tabs and the end. -/
def dress (marks : List String) (line : Bytes) : Bytes :=
  let text := if line.getLast? = some newline then line.dropLast else line
  let text := text.flatMap fun b =>
    if b = 9 then (if marks.contains "show-tabs" then [0x5E, 0x49] else [b])
    else if marks.contains "show-nonprinting" then visible b
    else [b]
  let sign := if marks.contains "show-ends" then [0x24] else []
  if line.getLast? = some newline then text ++ sign ++ [newline] else text

/-- A line and its number in front. -/
def numbered (n : Nat) (line : Bytes) : Bytes :=
  Bytes.ofString (padLeft 6 n.repr ++ "\t") ++ line

/-- Numbers lines, of which those that do not count stay as they are. -/
def number (counts : Bytes → Bool) (lines : List Bytes) : List Bytes :=
  (lines.foldl (fun (acc : List Bytes × Nat) line =>
    if counts line then (numbered acc.2 line :: acc.1, acc.2 + 1) else (line :: acc.1, acc.2))
    ([], 1)).1.reverse

/-- Drops an empty line that follows another one. -/
def squeezeLines (lines : List Bytes) : List Bytes :=
  (lines.foldl (fun (acc : List Bytes) line =>
    if line = [newline] ∧ acc.head? = some [newline] then acc else line :: acc) []).reverse

def catForms : List OptionForm :=
  [.flag 'n' "number", .flag 'b' "number-nonblank", .flag 's' "squeeze-blank", .flag 'u' "u",
    .flag 'v' "show-nonprinting", .flag 'E' "show-ends", .flag 'T' "show-tabs",
    .flag 'A' "show-all", .flag 'e' "e", .flag 't' "t"]

/-- Copies what it reads, and may number its lines or make its bytes visible. -/
def cat (s : Scene) : Deed :=
  reading s "cat" 1 catForms fun found operands =>
    let marks := found.flatMap fun (name, _) =>
      match name with
      | "show-all" => ["show-nonprinting", "show-ends", "show-tabs"]
      | "e" => ["show-nonprinting", "show-ends"]
      | "t" => ["show-nonprinting", "show-tabs"]
      | name => [name]
    if marks.any (· ≠ "u") then
      filter s "cat" plainly operands fun bytes =>
        let lines := linesWithEnds bytes
        let lines := if marks.contains "squeeze-blank" then squeezeLines lines else lines
        let dressed := lines.map (dress marks)
        (if marks.contains "number-nonblank" then
            number (fun line => line ≠ dress marks [newline]) dressed
          else if marks.contains "number" then number (fun _ => true) dressed
          else dressed).flatten
    else
      let (flows, unread) := sources s operands
      let reached := flows.takeWhile fun (_, flow) => !(flow.toOption.any Flow.isEndless)
      let writes := reached.map fun (name, flow) =>
        match flow with
        | .ok flow => (.out, flow.first)
        | .error e => told ("cat: " ++ plainly name e)
      match (flows.drop reached.length).head? with
      | some (_, .ok flow) =>
        { passing flow unread 0 with writes := writes ++ [(.out, flow.first)] }
      | _ =>
        { ofWrites s writes (if flows.all (·.2.toBool) then 0 else 1) with unread }

/-- Copies its input to its output and to the files it names. -/
def tee (s : Scene) : Deed :=
  reading s "tee" 1 [.flag 'a' "append", .flag 'i' "ignore-interrupts", .flag 'p' "p",
    .longFlag "output-error"] fun found operands =>
    let before (name : String) : Bytes :=
      if found.has "append" then (s.files.read (Files.Path.ofString name)).toOption.getD [] else []
    operands.foldl (fun d name =>
      let isDevice := ["/dev/stdout", "-", "/dev/stderr", "/dev/null"].contains name
      let bytes := if isDevice then s.input.first else before name ++ s.input.first
      if name = "-" then
        writing s "tee" plainly "./-" (before "./-" ++ s.input.first) d
      else writing s "tee" plainly name bytes d) (passing s.input .empty 0)

/-! ## The beginning and the end -/

/-- How much of its input `head` or `tail` shows: a number of parts, or all but so many. -/
structure Extent where
  ofBytes : Bool
  away : Bool
  count : Nat

/-- The extent that options ask for, the last one of them; `sign` asks for all but a number. -/
def Extent.ofOptions (tool : String) (sign : Char) (found : Options) : Except String Extent :=
  match found.reverse.find? fun (name, _) => name = "lines" || name = "bytes" with
  | none => .ok ⟨false, false, 10⟩
  | some (name, text) =>
    let cs := text.toList
    let signed := cs.head?.any fun c => c = '-' || c = '+'
    let digits := String.ofList (if signed then cs.drop 1 else cs)
    match (if digits.startsWith "+" then none else count? digits) with
    | some n => .ok ⟨name = "bytes", cs.head? = some sign, n⟩
    | none =>
      .error (tool ++ ": invalid number of " ++ name ++ ": " ++ Quoting.value (
        if cs.head? = some '-' then digits else text))

/-- How many bytes one read from a stream takes. -/
def blockSize : Nat := 8192

/-- What is left of a flow when a tool that reads it in blocks has needed some bytes. -/
def afterBlocks (f : Flow) (needed : Nat) : Flow :=
  (f.splitAt ((needed + blockSize - 1) / blockSize * blockSize)).2

/-- The line that announces a file. -/
def banner (isFirst : Bool) (name : String) : Bytes :=
  let name := if name = "-" then "standard input" else name
  Bytes.ofString ((if isFirst then "" else "\n") ++ "==> " ++ name ++ " <==\n")

def extentForms : List OptionForm :=
  [.valued 'n' "lines", .valued 'c' "bytes", .flag 'q' "quiet", .longFlag "silent",
    .flag 'v' "verbose", .flag 'z' "zero-terminated"]

/-- A number that stands for an option behind a dash, with letters behind it: a unit, what is
counted, and flags. -/
def shortExtent? (flags : List Char) (cs : List Char) : Option (List String) :=
  let digits := cs.takeWhile Char.isDigit
  let letters := cs.drop digits.length
  let units := ['b', 'k', 'm']
  let count := letters.foldl (fun (acc : Bool × List Char) c =>
    if c = 'c' then (true, [])
    else if c = 'l' then (false, acc.2)
    else if units.contains c then (true, [c])
    else acc) (false, [])
  let unit := count.2.map fun c => if c = 'm' then 'M' else c
  if digits.isEmpty || !letters.all fun c => (units ++ ['c', 'l'] ++ flags).contains c then none
  else
    some ([if count.1 then "-c" else "-n", String.ofList (digits ++ unit)] ++
      (letters.filter flags.contains).map fun c => String.ofList ['-', c])

/-- Goes on with the options and operands of `head` or `tail`, among whose options no other number
may be. -/
def readingExtent (s : Scene) (tool : String) (more : List OptionForm) (stray : Char → Deed)
    (go : Options → List String → Deed) : Deed :=
  match Options.read (extentForms ++ more) s.args with
  | .error (.unknownLetter c) =>
    if c.isDigit then stray c else complaint s (hint tool (OptionFault.unknownLetter c).message) 1
  | .error f => complaint s (hint tool f.message) 1
  | .ok (found, operands) => go found operands

/-- Are files announced? -/
def announces (found : Options) (operands : List String) : Bool :=
  match found.reverse.find? fun (name, _) => ["quiet", "silent", "verbose"].contains name with
  | some (name, _) => name = "verbose"
  | none => 1 < operands.length

/-- The beginning of a flow, what is left of it unread, and whether it is without end. -/
def beginning (e : Extent) (mark : UInt8) (f : Flow) : Bytes × Flow × Option Flow :=
  if e.away then
    if f.isEndless then ([], .empty, some f)
    else if e.ofBytes then (f.first.take (f.first.length - e.count), .empty, none)
    else
      let parts := partsWithEnds mark f.first
      ((parts.take (parts.length - e.count)).flatten, .empty, none)
  else if e.ofBytes then
    let (taken, unread) := f.splitAt e.count
    (taken, unread, none)
  else if mark = newline then
    match f.splitAtLine e.count with
    | some (taken, _) => (taken, afterBlocks f taken.length, none)
    | none => ([], .empty, some f)
  else (((partsWithEnds mark f.first).take e.count).flatten, .empty, none)

/-- Copies the beginnings of files. Bytes are read one for one, lines in blocks. -/
def head (s : Scene) : Deed :=
  let trailing (c : Char) : Deed :=
    complaint s (hint "head" ("invalid trailing option -- " ++ String.singleton c)) 1
  let first := (s.args.headD "").toList
  let digits := (first.drop 1).takeWhile Char.isDigit
  let known := ['b', 'k', 'm', 'c', 'l', 'q', 'v', 'z']
  let isShort := first.head? = some '-' && digits ≠ []
  match (if isShort then (first.drop (1 + digits.length)).find? (!known.contains ·) else none) with
  | some c => trailing c
  | none =>
  let args := if isShort then
      ((shortExtent? ['q', 'v', 'z'] (first.drop 1)).getD []) ++ s.args.drop 1
    else s.args
  readingExtent { s with args } "head" [] trailing fun found operands =>
    match Extent.ofOptions "head" '-' found with
    | .error text => complaint s text 1
    | .ok e =>
      let names := if operands.isEmpty then ["-"] else operands
      let named := announces found operands
      names.foldl (fun (d : Deed) name =>
        if d.code.isNone then d
        else
          let isInput := name = "-" || name = "/dev/stdin"
          match (if isInput then .ok d.unread else Flow.named s.files d.unread name) with
          | .error error =>
            { d with writes := d.writes ++ [told ("head: " ++ cannotOpen name error)], code := some 1 }
          | .ok flow =>
            let (taken, unread, endless) := beginning e (lineEnd found "zero-terminated") flow
            let isFirst := !d.writes.any (·.1 = .out)
            let lead := if named then banner isFirst name else []
            let d := { d with
              writes := d.writes ++ [(.out, lead ++ taken)]
              unread := if isInput then unread else d.unread }
            match endless with
            | none => d
            | some f =>
              { d with writes := d.writes ++ [(.out, f.first)], onward := f.cycle, code := none })
        (ofWrites s [] 0)

/-- The end of some bytes, or what comes after their beginning. -/
def ending (e : Extent) (mark : UInt8) (bytes : Bytes) : Bytes :=
  match e.away, e.ofBytes with
  | true, true => bytes.drop (e.count - 1)
  | true, false => ((partsWithEnds mark bytes).drop (e.count - 1)).flatten
  | false, true => bytes.drop (bytes.length - e.count)
  | false, false =>
    let parts := partsWithEnds mark bytes
    (parts.drop (parts.length - e.count)).flatten

/-- Copies the ends of files, and may wait for more to come. -/
def tail (s : Scene) : Deed :=
  let args := match s.args with
    | arg :: rest =>
      let alone := match rest with
        | [] => true
        | "--" :: names => names.length ≤ 1
        | [name] => name = "-" || !name.startsWith "-"
        | _ => false
      match arg.toList with
      | '+' :: cs =>
        match (if alone then shortExtent? ['f'] cs else none) with
        | some (form :: count :: flags) => form :: ("+" ++ count) :: flags ++ rest
        | _ => s.args
      | '-' :: cs =>
        match (if alone then shortExtent? ['f'] cs else none) with
        | some words => words ++ rest
        | none => s.args
      | _ => s.args
    | [] => []
  let stray (c : Char) : Deed :=
    complaint s ("tail: option used in invalid context -- " ++ String.singleton c) 1
  readingExtent { s with args } "tail" [.flag 'f' "follow", .flag 'F' "F", .longFlag "retry",
    .longValued "pid", .valued 's' "sleep-interval"] stray fun found operands =>
    match Extent.ofOptions "tail" '+' found with
    | .error text => complaint s text 1
    | .ok e =>
      finding s "tail" cannotOpen operands fun f =>
        let named := announces found operands
        let shown := f.texts.zipIdx.flatMap fun ((name, bytes), i) =>
          (if named then banner (i = 0) name else []) ++
            ending e (lineEnd found "zero-terminated") bytes
        let waits := (found.has "follow" || found.has "F") && f.texts.any fun (name, _) => name ≠ "-"
        let d := f.answer shown
        if waits then { d with code := none } else d

end Scratchpad.Shell.Tools
