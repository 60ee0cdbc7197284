import Scratchpad.Decimal.Notation
import Scratchpad.Shell.Tools.Basic

/-!
# Dumps

The tool that shows bytes as characters and as numbers of several sizes, a block of them in every
line and each kind in a line of its own.
-/

namespace Scratchpad.Shell.Tools

open Deed (complaint ofWrites told)

/-- What the bytes of a dump are taken for. -/
inductive Reading
  | names
  | characters
  | signed
  | unsigned (base : Nat)
  | floating

/-- A kind of line in a dump: how many bytes make one field, how they are read, and whether the
characters are shown at the end. -/
structure DumpKind where
  size : Nat
  reading : Reading
  trailer : Bool

namespace DumpKind

/-- How many characters a field takes. -/
def width (k : DumpKind) : Nat :=
  match k.reading with
  | .names | .characters => 3
  | .floating => if k.size = 4 then 15 else 24
  | .unsigned 16 => 2 * k.size
  | .unsigned 8 => (8 * k.size + 2) / 3
  | .unsigned _ => (Nat.toDigits 10 (Nat.pow 256 k.size - 1)).length
  | .signed => (Nat.toDigits 10 (Nat.pow 256 k.size / 2)).length + 1

/-- The names of the bytes that are not printed as they are. -/
def charNames : List String :=
  ["nul", "soh", "stx", "etx", "eot", "enq", "ack", "bel", "bs", "ht", "nl", "vt", "ff", "cr", "so",
    "si", "dle", "dc1", "dc2", "dc3", "dc4", "nak", "syn", "etb", "can", "em", "sub", "esc", "fs",
    "gs", "rs", "us", "sp"]

def nameOf (b : UInt8) : String :=
  let n := b.toNat % 128
  if n = 127 then "del" else (charNames[n]?).getD (String.singleton (Char.ofNat n))

def characterOf (b : UInt8) : String :=
  if b = 0 then "\\0"
  else if (Quoting.escapeLetter? b).isSome then Quoting.escaped b
  else if Quoting.isPrintable b then Quoting.printed b
  else padOctal 3 b.toNat

/-- The number of least significant bytes first. -/
def wordOf (bytes : Bytes) : Nat :=
  bytes.foldr (fun b n => b.toNat + 256 * n) 0

/-- The floating number of some bits: a sign, an exponent and a fraction. -/
def floatOf (exponentBits fractionBits : Nat) (n : Nat) : Floating :=
  let fraction := n % (1 <<< fractionBits)
  let exponent := (n >>> fractionBits) % (1 <<< exponentBits)
  let negative := (n >>> (fractionBits + exponentBits)) = 1
  let bias := (1 <<< (exponentBits - 1)) - 1
  if exponent = (1 <<< exponentBits) - 1 then
    (if fraction = 0 then .infinite negative else .nan negative)
  else if exponent = 0 then .finite negative ⟨fraction, 1 - (bias + fractionBits : Nat)⟩
  else .finite negative ⟨fraction + (1 <<< fractionBits), (exponent : Int) - (bias + fractionBits : Nat)⟩

/-- The fewest digits, from a number of them on, that read back as the number. -/
def fewest (p : Precision) (negative : Bool) (x : Dyadic) : Nat → Nat → List Char
  | 0, size => Notation.general size false x
  | tries + 1, size =>
    let cs := Notation.general size false x
    match Floating.read? p cs with
    | some (y, _) =>
      if y.compare? (.finite false x) = some .eq then cs else fewest p negative x tries (size + 1)
    | none => cs

def floatText (size : Nat) (bytes : Bytes) : String :=
  let x := if size = 4 then floatOf 8 23 (wordOf bytes) else floatOf 11 52 (wordOf bytes)
  let p : Precision := if size = 4 then ⟨24, -149, 104⟩ else .double
  let sign := if x.isNegative then "-" else ""
  match x with
  | .nan _ => sign ++ "nan"
  | .infinite _ => sign ++ "inf"
  | .finite negative y =>
    let isSmall := y.mantissa < 1 <<< (p.bits - 1)
    sign ++ String.ofList (fewest p negative y 16 (if isSmall then 1 else if size = 4 then 6 else 15))

/-- What a field shows of its bytes. -/
def text (k : DumpKind) (bytes : Bytes) : String :=
  let n := wordOf bytes
  match k.reading with
  | .names => nameOf (bytes.headD 0)
  | .characters => characterOf (bytes.headD 0)
  | .floating => floatText k.size bytes
  | .unsigned 10 => n.repr
  | .unsigned base => padded base k.width n
  | .signed =>
    let whole := Nat.pow 256 k.size
    toString (if 2 * n < whole then (n : Int) else (n : Int) - whole)

end DumpKind

/-- Pieces of some length; `fuel` bounds their number. -/
def piecesOf (size : Nat) : Nat → Bytes → List Bytes
  | 0, _ => []
  | _, [] => []
  | fuel + 1, bytes => bytes.take size :: piecesOf size fuel (bytes.drop size)

/-! ## Kinds -/

/-- The number of bytes in front of a type, by number or by letter. -/
def dumpSize? (text : String) (usual : Nat) (letters : List (Char × Nat)) (known : List Nat)
    (what : String) (cs : List Char) : Except String (Nat × List Char) :=
  match cs with
  | c :: r =>
    match letters.lookup c with
    | some n => .ok (n, r)
    | none =>
      let digits := cs.takeWhile Char.isDigit
      match decimal? digits with
      | none => .ok (usual, cs)
      | some n =>
        if known.contains n then .ok (n, cs.drop digits.length)
        else .error ("invalid type string " ++ Quoting.value text ++
          ";\nthis system doesn't provide a " ++ n.repr ++ "-byte " ++ what ++ " type")
  | [] => .ok (usual, [])

/-- The kinds in a type string. The fuel bounds their number. -/
def dumpKinds (text : String) : Nat → List Char → Except String (List DumpKind)
  | 0, _ => .ok []
  | _, [] => .ok []
  | fuel + 1, c :: r =>
    let integral : List (Char × Nat) := [('C', 1), ('S', 2), ('I', 4), ('L', 8)]
    let finish (reading : Reading) (found : Except String (Nat × List Char)) :
        Except String (List DumpKind) := do
      let (size, r) ← found
      let trailer := r.head? = some 'z'
      let rest ← dumpKinds text fuel (if trailer then r.drop 1 else r)
      return ⟨size, reading, trailer⟩ :: rest
    let whole (reading : Reading) : Except String (List DumpKind) :=
      finish reading (dumpSize? text 4 integral [1, 2, 4, 8] "integral" r)
    match c with
    | 'a' => finish .names (.ok (1, r))
    | 'c' => finish .characters (.ok (1, r))
    | 'd' => whole .signed
    | 'o' => whole (.unsigned 8)
    | 'u' => whole (.unsigned 10)
    | 'x' => whole (.unsigned 16)
    | 'f' =>
      finish .floating
        (dumpSize? text 8 [('F', 4), ('D', 8), ('L', 8)] [4, 8] "floating point" r)
    | c =>
      .error ("invalid character '" ++ String.singleton c ++ "' in type string " ++
        Quoting.value text)

/-- The type strings that letters stand for. -/
def dumpLetters : List (String × String) :=
  [("a", "a"), ("b", "o1"), ("B", "o2"), ("c", "c"), ("d", "u2"), ("D", "u4"), ("e", "fD"),
    ("f", "fF"), ("F", "fD"), ("h", "x2"), ("H", "x4"), ("i", "dI"), ("I", "dL"), ("l", "dL"),
    ("L", "dL"), ("o", "o2"), ("O", "o4"), ("s", "d2"), ("x", "x2"), ("X", "x4")]

/-! ## Lines -/

/-- How a dump is laid out. -/
structure Dump where
  kinds : List DumpKind
  base : Option Nat
  width : Nat
  showsAll : Bool
  swapped : Bool

namespace Dump

def address (d : Dump) (n : Nat) : String :=
  match d.base with
  | none => ""
  | some 16 => padded 16 6 n
  | some base => padded base 7 n

/-- The width of a block, in which every kind has its fields. -/
def blockWidth (d : Dump) : Nat :=
  (d.kinds.map fun k => (k.width + 1) * (d.width / k.size)).foldl max 0

/-- The line of one kind for a block, behind its address. -/
def line (d : Dump) (k : DumpKind) (block : Bytes) : String :=
  let fields := d.width / k.size
  let pad := d.blockWidth - k.width * fields
  let padAt (i : Nat) : Nat := pad * i / fields
  let pieces := piecesOf k.size (block.length + 1) block
  let shown := pieces.zipIdx.map fun (piece, i) =>
    let left := fields - i
    let piece := (piece ++ List.replicate (k.size - piece.length) 0)
    padLeft (padAt left - padAt (left - 1) + k.width)
      (k.text (if d.swapped then piece.reverse else piece))
  let trailer :=
    if k.trailer then
      let blank := fields - pieces.length
      String.ofList (List.replicate (blank * k.width + pad * blank / fields) ' ') ++ "  >" ++
        String.join (block.map fun b =>
          if Quoting.isPrintable b then Quoting.printed b else ".") ++ "<"
    else ""
  String.join shown ++ trailer

/-- The lines for a block. -/
def block (d : Dump) (offset : Nat) (bytes : Bytes) : List String :=
  let address := d.address offset
  d.kinds.zipIdx.map fun (k, i) =>
    (if i = 0 then address else String.ofList (List.replicate address.length ' ')) ++ d.line k bytes

/-- All lines. A block like the one before it is left out, with a star for the first of them. -/
def lines (d : Dump) (start : Nat) (bytes : Bytes) : List String :=
  let rows := (piecesOf d.width (bytes.length + 1) bytes).zipIdx
  let (lines, _) := rows.foldl (fun (acc : List String × Bytes × Bool) (row, i) =>
    let (lines, before, starred) := acc
    if row = before && row.length = d.width && !d.showsAll then
      (if starred then lines else "*" :: lines, before, true)
    else ((d.block (start + d.width * i) row).reverse ++ lines, row, false)) ([], [], false)
  let last := d.address (start + bytes.length)
  lines.reverse ++ (if last = "" then [] else [last])

end Dump

/-- The strings in some bytes, each with its address: at least so many printable bytes before a null
byte. Where the bytes are cut off, the last string needs no null byte, and its address is one less.
`run` is the string up to here, reversed. -/
def stringsIn (least : Nat) (cutOff : Bool) : Nat → Bytes → Bytes → List (Nat × Bytes)
  | address, run, [] =>
    if cutOff && least < run.length then
      [((address + Nat.pow 2 64 - run.length - 1) % Nat.pow 2 64, run.reverse)]
    else []
  | address, run, b :: rest =>
    if Quoting.isPrintable b then stringsIn least cutOff (address + 1) (b :: run) rest
    else
      let found := if b = 0 && least ≤ run.length then [(address - run.length, run.reverse)] else []
      found ++ stringsIn least cutOff (address + 1) [] rest

/-- A number of bytes: octal, hexadecimal or decimal, with a unit. -/
def byteCount? (text : String) : Option Nat :=
  match text.toList with
  | '0' :: 'x' :: cs | '0' :: 'X' :: cs =>
    if cs ≠ [] && cs.all fun c => (Floating.digitValue? 16 c).isSome then
      some (Floating.digits 16 cs).1
    else none
  | '0' :: c :: cs =>
    let digits := (c :: cs).takeWhile fun c => '0' ≤ c && c ≤ '7'
    (unit? ((c :: cs).drop digits.length)).map fun unit => (Floating.digits 8 digits).1 * unit
  | _ => count? text

/-- Shows its input as characters and numbers. -/
def od (s : Scene) : Deed :=
  let forms := (dumpLetters.map fun (letter, _) =>
    ⟨letter.toList.head?, letter, .nothing⟩) ++ [.valued 'A' "address-radix",
      .valued 'j' "skip-bytes", .valued 'N' "read-bytes", .valued 't' "format",
      ⟨some 'S', "S", .value⟩, ⟨none, "strings", .perhaps⟩, .flag 'v' "output-duplicates",
      ⟨some 'w', "width", .perhaps⟩, .longValued "endian", .longFlag "traditional"]
  reading s "od" 1 forms fun found operands =>
    let types := found.filterMap fun (name, value) =>
      if name = "format" then some value else dumpLetters.lookup name
    let types := if types.isEmpty then ["o2"] else types
    let number (name : String) : Except String (Option Nat) :=
      match found.value? name with
      | none => .ok none
      | some text =>
        match byteCount? text with
        | some n => .ok (some n)
        | none =>
          let letter := match name with
            | "skip-bytes" => "-j"
            | "width" => "-w"
            | "S" | "strings" => "-S"
            | _ => "-N"
          .error ("invalid " ++ letter ++ " argument " ++ Quoting.value text)
    let base : Except String (Option Nat) :=
      match found.value? "address-radix" with
      | none | some "o" => .ok (some 8)
      | some "d" => .ok (some 10)
      | some "x" => .ok (some 16)
      | some "n" => .ok none
      | some text =>
        .error ("invalid output address radix '" ++ String.ofList (text.toList.take 1) ++
          "'; it must be one character from [doxn]")
    let width : Except String (Option Nat) :=
      if found.value? "width" = some "" then .ok (some 32) else number "width"
    let kinds := types.mapM fun text => dumpKinds text (text.length + 1) text.toList
    let least : Except String (Option Nat) :=
      if found.value? "strings" = some "" then .ok (some 3)
      else if found.has "strings" then number "strings"
      else number "S"
    match kinds, base, number "skip-bytes", number "read-bytes", width, least with
    | .ok kinds, .ok base, .ok skipped, .ok most, .ok width, .ok least =>
      let kinds := kinds.flatten
      let unit := (kinds.map (·.size)).foldl max 1
      let asked := width.getD (unit * (16 / unit))
      let fits := asked ≠ 0 && asked % unit = 0
      let d : Dump :=
        { kinds, base
          width := if fits then asked else unit
          showsAll := found.has "output-duplicates"
          swapped := found.value? "endian" = some "big" }
      let skipped := skipped.getD 0
      if least.isSome && found.any fun (name, _) =>
          name = "format" || (dumpLetters.lookup name).isSome then
        complaint s "od: no type may be specified when dumping strings" 1
      else
      let whole := s.input.isEndless && operands.isEmpty
      let s := match whole, most with
        | true, some n => { s with input := Flow.ofBytes (s.input.splitAt (skipped + n)).1 }
        | _, _ => s
      finding s "od" plainly operands fun f =>
        if f.bytes.length < skipped then
          { f.answer [] with
            writes := f.errors ++ [told "od: cannot skip past end of combined input"]
            code := some 1 }
        else
          let bytes := f.bytes.drop skipped
          let bytes := bytes.take (most.getD bytes.length)
          match least with
          | some least =>
            f.answer ((stringsIn least (most = some bytes.length) skipped [] bytes).flatMap
              fun (address, text) =>
                let shown := d.address address
                Bytes.ofString (if shown = "" then "" else shown ++ " ") ++ text ++ [newline])
          | none =>
            f.answer (if f.texts.isEmpty then [] else Bytes.ofString
              (String.join ((d.lines skipped bytes).map (· ++ "\n"))))
    | .error text, _, _, _, _, _ | _, .error text, _, _, _, _ | _, _, .error text, _, _, _
    | _, _, _, .error text, _, _ | _, _, _, _, .error text, _ | _, _, _, _, _, .error text =>
      complaint s ("od: " ++ text) 1

end Scratchpad.Shell.Tools
