import Scratchpad.Shell.Tools.Basic

/-!
# Comparing bytes

The tool that says at which byte two files differ first, or at which bytes they do.
-/

namespace Scratchpad.Shell.Tools

open Deed (complaint ofWrites told)

/-- The hint of the tools that compare files, which put their names in front of both its lines. -/
def comparingHint (tool text : String) : String :=
  tool ++ ": " ++ text ++ "\n" ++ tool ++ ": Try '" ++ tool ++ " --help' for more information."

/-- A number of bytes: its base is told by how it begins, and a unit may follow it or stand alone. -/
def skipCount? (text : String) : Option Nat :=
  let read (base : Nat) (isOne : Char → Bool) (cs : List Char) : Option Nat :=
    let digits := cs.takeWhile isOne
    let rest := cs.drop digits.length
    let value (c : Char) : Nat :=
      if c.isDigit then c.toNat - 48 else c.toLower.toNat - 97 + 10
    let n := digits.foldl (fun (n : Nat) c => n * base + value c) 0
    if rest = ['b'] then none
    else if digits.isEmpty then (if rest.isEmpty then none else unit? rest)
    else (unit? rest).map (n * ·)
  let isHex (c : Char) : Bool := c.isDigit || ('a' ≤ c.toLower && c.toLower ≤ 'f')
  match (if text.startsWith "+" then text.toList.drop 1 else text.toList) with
  | '0' :: x :: c :: cs =>
    if (x = 'x' || x = 'X') && isHex c then read 16 isHex (c :: cs)
    else read 8 (fun c => '0' ≤ c && c ≤ '7') ('0' :: x :: c :: cs)
  | '0' :: cs => read 8 (fun c => '0' ≤ c && c ≤ '7') ('0' :: cs)
  | cs => read 10 Char.isDigit cs

/-- How two files are compared byte by byte. -/
structure ByteComparison where
  showsAll : Bool
  isQuiet : Bool
  showsBytes : Bool
  most : Option Nat
  skipped : Nat × Nat

/-- How many bytes are skipped in one file, or in each of two. -/
def skippedBytes? (text : String) : Except String (Nat × Nat) :=
  let value (text : String) : Except String Nat :=
    match skipCount? text with
    | some n => .ok n
    | none => .error ("invalid --ignore-initial value '" ++ text ++ "'")
  match text.splitOn ":" with
  | [one] => (value one).map fun n => (n, n)
  | first :: others => do
    if (skipCount? first).isNone then throw ("invalid --ignore-initial value '" ++ text ++ "'")
    return (← value first, ← value (":".intercalate others))
  | [] => .ok (0, 0)

namespace ByteComparison

/-- The comparison that options and operands ask for, and the two files. -/
def ofArguments (found : Options) (operands : List String) :
    Except String (ByteComparison × String × String) := do
  let both (p r : Nat × Nat) : Nat × Nat := (max p.1 r.1, max p.2 r.2)
  let showsAll := found.has "verbose"
  let isQuiet := found.has "quiet" || found.has "silent"
  let (most, skipped) ← found.foldlM (fun ((most, skipped) : Option Nat × Nat × Nat) (name, value) =>
    match name with
    | "bytes" =>
      match skipCount? value with
      | some n => .ok (some (min n (most.getD n)), skipped)
      | none => .error ("invalid --bytes value '" ++ value ++ "'")
    | "ignore-initial" => (skippedBytes? value).map fun p => (most, both skipped p)
    | _ => .ok (most, skipped)) (none, 0, 0)
  if showsAll && isQuiet then throw "options -l and -s are incompatible"
  match operands with
  | [] => throw "missing operand after 'cmp'"
  | [name] => return (⟨showsAll, isQuiet, found.has "print-bytes", most, skipped⟩, name, "-")
  | first :: second :: rest =>
    let skips ← (rest.take 2).mapM fun text =>
      match skipCount? text with
      | some n => Except.ok n
      | none => .error ("invalid --ignore-initial value '" ++ text ++ "'")
    match rest.drop 2 with
    | extra :: _ => throw ("extra operand '" ++ extra ++ "'")
    | [] =>
      let skipped := both skipped (skips.getD 0 0, skips.getD 1 0)
      return (⟨showsAll, isQuiet, found.has "print-bytes", most, skipped⟩, first, second)

/-- How a byte is shown: in octal, and with the character itself if that is asked for. -/
def shown (c : ByteComparison) (width : Nat) (b : UInt8) : String :=
  padLeft 3 (String.ofList (Nat.toDigits 8 b.toNat)) ++
    if c.showsBytes then " " ++ padRight width (String.ofList (Text.Utf8.lossy (visible b))) else ""

/-- Compares the bytes of two files, of some of which the lengths are known beforehand. -/
def answer (c : ByteComparison) (names : String × String) (sizes : List Nat) (first second : Bytes) :
    List (Outlet × Bytes) × Nat :=
  let cut (skip : Nat) (bytes : Bytes) : Bytes :=
    let rest := bytes.drop skip
    rest.take (c.most.getD rest.length)
  let a := cut c.skipped.1 first
  let b := cut c.skipped.2 second
  let least := min a.length b.length
  let wrong := ((a.zip b).zipIdx 1).filter fun ((x, y), _) => x ≠ y
  let shortest := if a.length < b.length then names.1 else names.2
  let ends (behind : String) : List (Outlet × Bytes) :=
    if a.length = b.length || c.isQuiet then []
    else [told ("cmp: EOF on " ++ shortest ++
      if least = 0 then " which is empty" else " after byte " ++ least.repr ++ behind)]
  if c.showsAll then
    let most := (c.most.toList ++ sizes).foldl min 9223372036854775807
    let width := (Nat.toDigits 10 most).length
    let rows := wrong.map fun ((x, y), i) =>
      padLeft width i.repr ++ " " ++ c.shown 4 x ++ " " ++ c.shown 0 y ++ "\n"
    ((.out, Bytes.ofString (String.join rows)) :: ends "",
      if wrong.isEmpty && a.length = b.length then 0 else 1)
  else
    match wrong with
    | ((x, y), i) :: _ =>
      let line := (a.take (i - 1)).count newline + 1
      let text := names.1 ++ " " ++ names.2 ++ " differ: " ++ (if c.showsBytes then "byte " else "char ") ++
        i.repr ++ ", line " ++ line.repr ++
        (if c.showsBytes then " is " ++ c.shown 0 x ++ " " ++ c.shown 0 y else "") ++ "\n"
      (if c.isQuiet then [] else [(.out, Bytes.ofString text)], 1)
    | [] =>
      let lines := (a.take least).count newline
      let inLine := if (a.take least).getLast? = some newline then ", line " ++ lines.repr
        else ", in line " ++ (lines + 1).repr
      (ends inLine, if a.length = b.length then 0 else 1)

end ByteComparison

/-- Compares two files byte by byte. -/
def cmp (s : Scene) : Deed :=
  let fails (text : String) : Deed := complaint s (comparingHint "cmp" text) 2
  match Options.read [.flag 'b' "print-bytes", .flag 'c' "print-bytes", .valued 'i' "ignore-initial",
    .flag 'l' "verbose", .valued 'n' "bytes", .flag 's' "quiet", .longFlag "silent"] s.args with
  | .error f => fails f.message
  | .ok (found, operands) =>
    match ByteComparison.ofArguments found operands with
    | .error text => fails text
    | .ok (c, first, second) =>
      let flow (name : String) : Except Files.Error Flow :=
        if name = "-" then .ok s.input else Flow.named s.files s.input name
      let isMissing (name : String) : Bool := match flow name with
        | .ok _ | .error .isDirectory => false
        | .error _ => true
      let isSilent := c.isQuiet && (isMissing first || isMissing second)
      let broken (name : String) (e : Files.Error) : Deed :=
        ofWrites s (if isSilent then [] else [told ("cmp: " ++ name ++ ": " ++ e.reason)]) 2
      match (if isMissing first then [first] else if isMissing second then [second] else []) with
      | name :: _ =>
        match flow name with
        | .error e => broken name e
        | .ok _ => ofWrites s [] 2
      | [] =>
        if first = second && c.skipped.1 = c.skipped.2 then ofWrites s [] 0
        else
          match flow first, flow second with
          | .error e, _ => broken first e
          | _, .error e => broken second e
          | .ok f, .ok g =>
            if f.isEndless && g.isEndless then .waiting
            else
              let most := max f.first.length g.first.length + max c.skipped.1 c.skipped.2 + 1
              let readsInput := first = "-" || second = "-"
              let sizes := [(first, f, c.skipped.1), (second, g, c.skipped.2)].filterMap
                fun (name, flow, skip) =>
                  if s.files.isFile (Files.Path.ofString name) then some (flow.first.length - skip) else none
              let (writes, code) := c.answer (first, second) sizes (f.unroll most).first (g.unroll most).first
              { ofWrites s writes code with unread := if readsInput then .empty else s.input }

end Scratchpad.Shell.Tools
