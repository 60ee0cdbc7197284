import Scratchpad.Shell.Tools.Basic
import Scratchpad.Text.Character

/-!
# Blocks

The tool that copies bytes in blocks, changes them on the way, and says how many blocks it read and
wrote.
-/

namespace Scratchpad.Shell.Tools

open Deed (complaint ofWrites passing told)

namespace Blocks

/-! ## Conversions -/

/-- The bytes of pairs of hexadecimal digits. -/
def ofHex : List Char → Bytes
  | a :: b :: rest =>
    UInt8.ofNat ((Text.hexValue? a).getD 0 * 16 + (Text.hexValue? b).getD 0) :: ofHex rest
  | _ => []

/-- The codes of a punched card for the bytes of a terminal. -/
def ebcdic : Array UInt8 :=
  (ofHex (
    "00010203372d2e2f1605250b0c0d0e0f101112133c3d322618193f271c1d1e1f" ++
    "405a7f7b5b6c507d4d5d5c4e6b604b61f0f1f2f3f4f5f6f7f8f97a5e4c7e6e6f" ++
    "7cc1c2c3c4c5c6c7c8c9d1d2d3d4d5d6d7d8d9e2e3e4e5e6e7e8e9ade0bd9a6d" ++
    "79818283848586878889919293949596979899a2a3a4a5a6a7a8a9c04fd05f07" ++
    "202122232415061728292a2b2c090a1b30311a333435360838393a3b04143ee1" ++
    "4142434445464748495152535455565758596263646566676869707172737475" ++
    "767778808a8b8c8d8e8f906a9b9c9d9e9fa0aaabac4aaeafb0b1b2b3b4b5b6b7" ++
    "b8b9babbbca1bebfcacbcccdcecfdadbdcdddedfeaebecedeeeffafbfcfdfeff").toList).toArray

/-- The codes of a card as printers knew them. -/
def ibm : Array UInt8 :=
  (ofHex (
    "00010203372d2e2f1605250b0c0d0e0f101112133c3d322618193f271c1d1e1f" ++
    "405a7f7b5b6c507d4d5d5c4e6b604b61f0f1f2f3f4f5f6f7f8f97a5e4c7e6e6f" ++
    "7cc1c2c3c4c5c6c7c8c9d1d2d3d4d5d6d7d8d9e2e3e4e5e6e7e8e9ade0bd5f6d" ++
    "79818283848586878889919293949596979899a2a3a4a5a6a7a8a9c04fd0a107" ++
    "202122232415061728292a2b2c090a1b30311a333435360838393a3b04143ee1" ++
    "4142434445464748495152535455565758596263646566676869707172737475" ++
    "767778808a8b8c8d8e8f909a9b9c9d9e9fa0aaabacadaeafb0b1b2b3b4b5b6b7" ++
    "b8b9babbbcbdbebfcacbcccdcecfdadbdcdddedfeaebecedeeeffafbfcfdfeff").toList).toArray

/-- The bytes of a terminal for the codes of a punched card. -/
def ascii : Array UInt8 :=
  (ofHex (
    "000102039c09867f978d8e0b0c0d0e0f101112139d8508871819928f1c1d1e1f" ++
    "80818283840a171b88898a8b8c050607909116939495960498999a9b14159e1a" ++
    "20a0a1a2a3a4a5a6a7a8d52e3c282b7c26a9aaabacadaeafb0b121242a293b7e" ++
    "2d2fb2b3b4b5b6b7b8b9cb2c255f3e3fbabbbcbdbebfc0c1c2603a2340273d22" ++
    "c3616263646566676869c4c5c6c7c8c9ca6a6b6c6d6e6f7071725ecccdcecfd0" ++
    "d1e5737475767778797ad2d3d45bd6d7d8d9dadbdcdddedfe0e1e2e3e45de6e7" ++
    "7b414243444546474849e8e9eaebeced7d4a4b4c4d4e4f505152eeeff0f1f2f3" ++
    "5c9f535455565758595af4f5f6f7f8f930313233343536373839fafbfcfdfeff").toList).toArray

/-- Swaps the bytes of every pair. -/
def swapPairs : Bytes → Bytes
  | a :: b :: r => b :: a :: swapPairs r
  | r => r

/-- Lines as records of one size, filled up with blanks or cut off, and how many were cut off. -/
def records (size : Nat) (blank mark : UInt8) (bytes : Bytes) : Bytes × Nat :=
  let lines := partsOf mark bytes
  (lines.flatMap fun line => line.take size ++ List.replicate (size - line.length) blank,
    lines.countP fun line => size < line.length)

/-- Records of one size as lines without the blanks at their ends; the fuel bounds their number. -/
def linesOfRecords (size : Nat) (blank mark : UInt8) : Nat → Bytes → Bytes
  | 0, _ => []
  | _, [] => []
  | fuel + 1, bytes =>
    ((bytes.take size).reverse.dropWhile (· = blank)).reverse ++
      mark :: linesOfRecords size blank mark fuel (bytes.drop size)

/-- The names of all conversions. -/
def conversionNames : List String :=
  ["ascii", "ebcdic", "ibm", "block", "unblock", "lcase", "ucase", "sparse", "swab", "sync", "excl",
    "nocreat", "notrunc", "noerror", "fdatasync", "fsync"]

def flagNames : List String :=
  ["append", "binary", "cio", "direct", "directory", "dsync", "noatime", "nocache", "noctty",
    "nofollow", "nolinks", "nonblock", "sync", "text", "fullblock", "count_bytes", "skip_bytes",
    "seek_bytes"]

/-! ## Operands -/

/-- How blocks are copied. Without a size for both sides, each side has its own. -/
structure Plan where
  input : Option String := none
  output : Option String := none
  size : Option Nat := none
  inSize : Nat := 512
  outSize : Nat := 512
  recordSize : Nat := 0
  skip : Nat := 0
  seek : Nat := 0
  count : Option Nat := none
  conversions : List String := []
  inFlags : List String := []
  outFlags : List String := []
  status : String := ""

/-- A product of counts, each of which may end with a letter for bytes. -/
def number (text : String) : Except String Nat :=
  let factor (part : String) : Option Nat :=
    match part.toList.reverse with
    | ['B'] => none
    | 'B' :: cs =>
      (count? part).or (count? (String.ofList cs.reverse))
    | 'c' :: cs => decimal? cs.reverse
    | 'w' :: cs => (decimal? cs.reverse).map (· * 2)
    | _ => if part.startsWith "+" || part.startsWith "-" then none else count? part
  match (text.splitOn "x").mapM factor with
  | none => .error ("dd: invalid number: " ++ Quoting.value text)
  | some ns =>
    let n := ns.foldl (· * ·) 1
    if n < 9223372036854775808 then .ok n
    else
      .error ("dd: invalid number: " ++ Quoting.value text ++
        ": Value too large for defined data type")

def positive (text : String) : Except String Nat := do
  match ← number text with
  | 0 => throw ("dd: invalid number: " ++ Quoting.value text)
  | n => return n

/-- The names in a list, all of which must be known. -/
def namesIn (known : List String) (what text : String) : Except String (List String) :=
  let names := text.splitOn ","
  match names.find? fun name => !known.contains name with
  | some name => .error (hint "dd" ("invalid " ++ what ++ ": " ++ Quoting.value name))
  | none => .ok names

/-- Takes one operand. -/
def Plan.take (p : Plan) (operand : String) : Except String Plan := do
  let name := String.ofList (operand.toList.takeWhile (· ≠ '='))
  let value := String.ofList (operand.toList.drop (name.length + 1))
  let inBytes := value.toList.contains 'B'
  let withFlag (flag : String) (flags : List String) : List String :=
    if inBytes then flag :: flags else flags
  let unknown : Except String Plan :=
    .error (hint "dd" ("unrecognized operand " ++ Quoting.value operand))
  if !operand.toList.contains '=' then unknown
  else
    match name with
    | "if" => return { p with input := some value }
    | "of" => return { p with output := some value }
    | "bs" => return { p with size := some (← positive value) }
    | "ibs" => return { p with inSize := ← positive value }
    | "obs" => return { p with outSize := ← positive value }
    | "cbs" => return { p with recordSize := ← positive value }
    | "skip" | "iseek" =>
      return { p with skip := ← number value, inFlags := withFlag "skip_bytes" p.inFlags }
    | "seek" | "oseek" =>
      return { p with seek := ← number value, outFlags := withFlag "seek_bytes" p.outFlags }
    | "count" =>
      return { p with
        count := some (← number value)
        inFlags := withFlag "count_bytes" p.inFlags }
    | "conv" =>
      return { p with
        conversions := p.conversions ++ (← namesIn conversionNames "conversion" value) }
    | "iflag" =>
      return { p with
        inFlags := p.inFlags ++ (← namesIn flagNames "input flag" value) }
    | "oflag" =>
      return { p with
        outFlags := p.outFlags ++
          (← namesIn (flagNames.filter (· ≠ "fullblock")) "output flag" value) }
    | "status" =>
      if ["none", "noxfer", "progress"].contains value then return { p with status := value }
      else throw (hint "dd" ("invalid status level: " ++ Quoting.value value))
    | _ => unknown

namespace Plan

def converts (p : Plan) (name : String) : Bool :=
  p.conversions.contains name

/-- What does not go together. -/
def conflict? (p : Plan) : Option String :=
  let many (names : List String) : Bool := 1 < names.countP p.converts
  if many ["ascii", "ebcdic", "ibm"] then
    some "cannot combine any two of \x7bascii,ebcdic,ibm\x7d"
  else if p.recordSize ≠ 0 && many ["block", "unblock"] then some "cannot combine block and unblock"
  else if many ["lcase", "ucase"] then some "cannot combine lcase and ucase"
  else if many ["excl", "nocreat"] then some "cannot combine excl and nocreat"
  else if [p.inFlags, p.outFlags].any fun flags =>
      flags.contains "direct" && flags.contains "nocache" then
    some "cannot combine direct and nocache"
  else none

def ofArgs (args : List String) : Except String Plan := do
  let p ← args.foldlM take {}
  match p.conflict? with
  | some text => throw ("dd: " ++ text)
  | none =>
    return match p.size with
      | some n => { p with inSize := n, outSize := n }
      | none => p

/-- The bytes that are written for those that were read, and how many records were cut off. -/
def convert (p : Plan) (bytes : Bytes) : Bytes × Nat :=
  let blocks := p.recordSize ≠ 0 && (p.converts "block" || p.converts "ebcdic" || p.converts "ibm")
  let unblocks := p.recordSize ≠ 0 && (p.converts "unblock" || p.converts "ascii")
  let lack := (p.inSize - bytes.length % p.inSize) % p.inSize
  let bytes :=
    if p.converts "sync" then
      bytes ++ List.replicate lack (if blocks || unblocks then 0x20 else 0)
    else bytes
  let look (table : Array UInt8) (b : UInt8) : UInt8 := table.getD b.toNat b
  let bytes := if p.converts "ascii" then bytes.map (look ascii) else bytes
  let bytes :=
    if p.converts "ucase" then bytes.map toUpper
    else if p.converts "lcase" then bytes.map fun b => if isUpper b then b + 0x20 else b
    else bytes
  let coded : UInt8 → UInt8 :=
    if p.converts "ebcdic" then look ebcdic else if p.converts "ibm" then look ibm else id
  let bytes := bytes.map coded
  let bytes := if p.converts "swab" then swapPairs bytes else bytes
  if blocks then records p.recordSize (coded 0x20) (coded newline) bytes
  else if unblocks then
    (linesOfRecords p.recordSize (coded 0x20) (coded newline) (bytes.length + 1) bytes, 0)
  else (bytes, 0)

end Plan

/-! ## Reports -/

/-- A size in the largest unit in which it has a whole part, rounded to the nearest. -/
def nearSize? (base : Nat) (units : List String) (n : Nat) : Option String :=
  let power := (List.range 6).foldl (fun p i => if Nat.pow base (i + 1) ≤ n then i + 1 else p) 0
  if power = 0 then none
  else
    let unit := Nat.pow base power
    let tenths := (n * 20 + unit) / (2 * unit)
    let whole := (n * 2 + unit) / (2 * unit)
    let name (i : Nat) : String := " " ++ units.getD (i - 1) ""
    if tenths < 100 then some ((tenths / 10).repr ++ "." ++ (tenths % 10).repr ++ name power)
    else if whole = base then some ("1.0" ++ name (power + 1))
    else some (whole.repr ++ name power)

/-- How many bytes were copied. -/
def sizeText (n : Nat) : String :=
  let decimal := nearSize? 1000 ["kB", "MB", "GB", "TB", "PB", "EB", "ZB"] n
  let binary := nearSize? 1024 ["KiB", "MiB", "GiB", "TiB", "PiB", "EiB", "ZiB"] n
  n.repr ++ match decimal, binary with
    | none, _ => if n = 1 then " byte" else " bytes"
    | some a, none => " bytes (" ++ a ++ ")"
    | some a, some b => " bytes (" ++ a ++ ", " ++ b ++ ")"

def recordText (size n : Nat) : String :=
  (n / size).repr ++ "+" ++ (if n % size = 0 then "0" else "1") ++ " records "

/-- What is told at the end. -/
def Plan.report (p : Plan) (read written cutOff : Nat) : List (Outlet × Bytes) :=
  if p.status = "none" then []
  else
    let cut := if cutOff = 0 then "" else
      "\n" ++ cutOff.repr ++ " truncated record" ++ if cutOff = 1 then "" else "s"
    let sum := if p.status = "noxfer" then "" else
      "\n" ++ sizeText written ++ " copied, 1e-05 s, " ++
        if written = 0 then "0.0 kB/s" else "1.0 MB/s"
    [told (recordText p.inSize read ++ "in\n" ++ recordText p.outSize written ++ "out" ++ cut ++ sum)]

/-- The contents of a file behind which or into which bytes are written. -/
def Plan.merge (p : Plan) (ahead : Nat) (old made : Bytes) : Bytes :=
  let truncates := !p.converts "notrunc"
  if p.outFlags.contains "append" then (if truncates then [] else old) ++ made
  else
    old.take ahead ++ List.replicate (ahead - old.length) 0 ++ made ++
      if truncates then [] else old.drop (ahead + made.length)

end Blocks

open Blocks in
/-- Copies blocks, and says how many. -/
def dd (s : Scene) : Deed :=
  match Options.readFrom [] true none (s.args.filter fun arg => !arg.toList.contains '=') with
  | .error f => complaint s (hint "dd" f.message) 1
  | .ok _ =>
  match Plan.ofArgs (s.args.filter (· ≠ "--")) with
  | .error text => complaint s text 1
  | .ok p =>
    let input := p.input.getD "/dev/stdin"
    let refused (name : String) (e : Files.Error) : Deed :=
      complaint s ("dd: failed to open " ++ Quoting.always name ++ ": " ++ e.reason) 1
    let isDirectory (name : String) : Bool :=
      (s.files.resolve true (Files.Path.ofString name)) matches .ok (.found _ (.dir ..))
    let there (name : String) : Bool :=
      (s.files.resolve true (Files.Path.ofString name)) matches .ok (.found ..)
    match Flow.named s.files s.input input with
    | .error .isDirectory =>
      ofWrites s (told ("dd: error reading " ++ Quoting.always input ++ ": Is a directory") ::
        p.report 0 0 0) 1
    | .error e => refused input e
    | .ok flow =>
      let output := p.output.getD "/dev/stdout"
      if isDirectory output then refused output .isDirectory
      else if p.converts "excl" && there output then refused output .alreadyExists
      else if p.converts "nocreat" && !there output then refused output .noEntry
      else
        let skipped := if p.inFlags.contains "skip_bytes" then p.skip else p.skip * p.inSize
        let (lost, flow) := flow.splitAt skipped
        let ahead := if p.outFlags.contains "seek_bytes" then p.seek else p.seek * p.outSize
        if flow.isEndless && p.count.isNone then passing flow .empty 0
        else
          let most := p.count.map fun n =>
            if p.inFlags.contains "count_bytes" then n else n * p.inSize
          let (taken, rest) := match most with
            | some n => flow.splitAt n
            | none => (flow.first, .empty)
          let (made, cutOff) := p.convert taken
          let shown := if p.input.isSome then Quoting.name input else "'standard input'"
          let short := if lost.length < skipped && p.status ≠ "none" then
              [told ("dd: " ++ shown ++ ": cannot skip to specified offset")] else []
          let told := short ++ p.report taken.length made.length cutOff
          let unread := if input = "/dev/stdin" then rest else s.input
          let d := { ofWrites s told 0 with unread }
          match p.output with
          | none =>
            if ahead = 0 then { d with writes := (.out, made) :: d.writes }
            else
              ofWrites s (Deed.told "dd: 'standard output': cannot seek: Illegal seek" ::
                p.report 0 0 0) 1
          | some "/dev/stdout" | some "/dev/stderr" | some "/dev/null" =>
            writing s "dd" plainly output made d
          | some name =>
            let old := (s.files.read (Files.Path.ofString name)).toOption.getD []
            match s.files.write (Files.Path.ofString name) (p.merge ahead old made) with
            | .ok files => { d with files := some files }
            | .error e => refused name e

end Scratchpad.Shell.Tools
