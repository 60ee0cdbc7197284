import Scratchpad.Decimal.Floating
import Scratchpad.Digest.Blake2
import Scratchpad.Digest.Blocks
import Scratchpad.Digest.Sha
import Scratchpad.Shell.Tools.Basic

/-!
# Digests of files

The tools that show digests and checksums of files, or compare files with digests that were written
down.
-/

namespace Scratchpad.Shell.Tools

open Deed (complaint ofWrites told)

/-- A digest by the names of its tool, in lines with tags and as an option, with the size in bytes that
it usually has, and whether it may have another one. -/
structure DigestKind where
  tool : String
  tag : String
  option : String
  size : Nat
  varies : Bool
  digest : Nat → Bytes → Bytes

/-- A kind of which the size is given. -/
def DigestKind.fixed (option : String) (size : Nat) (digest : Bytes → Bytes) : DigestKind :=
  ⟨option ++ "sum", option.toUpper, option, size, false, fun _ => digest⟩

def blake2Kind : DigestKind := ⟨"b2sum", "BLAKE2b", "blake2b", 64, true, Digest.Blake2.digest⟩

/-- The kinds that have tools of their own. -/
def digestKinds : List DigestKind :=
  [.fixed "md5" 16 Digest.Md5.digest, .fixed "sha1" 20 Digest.Sha1.digest,
    .fixed "sha224" 28 (Digest.Sha2.digest Digest.Sha2.sha224),
    .fixed "sha256" 32 (Digest.Sha2.digest Digest.Sha2.sha256),
    .fixed "sha384" 48 (Digest.Sha2.digest Digest.Sha2.sha384),
    .fixed "sha512" 64 (Digest.Sha2.digest Digest.Sha2.sha512), blake2Kind]

def allDigestKinds : List DigestKind :=
  digestKinds ++ [.fixed "sm3" 32 Digest.Sm3.digest]

def hexText (bytes : Bytes) : String :=
  String.join (bytes.map fun b => padded 16 2 b.toNat)

def digestForms : List OptionForm :=
  [.flag 'b' "binary", .flag 'c' "check", .longFlag "ignore-missing", .longFlag "quiet",
    .longFlag "status", .flag 't' "text", .flag 'w' "warn", .longFlag "strict", .longFlag "tag",
    .flag 'z' "zero"]

/-! ## Lines -/

/-- Has a name characters that would break a line? -/
def breaksLines (name : String) : Bool :=
  name.toList.any fun c => c = '\\' || c = '\n' || c = '\r'

/-- A name on one line. -/
def onOneLine (name : String) : String :=
  String.join (name.toList.map fun
    | '\\' => "\\\\"
    | '\n' => "\\n"
    | '\r' => "\\r"
    | c => String.singleton c)

/-- A name that was on one line, if it was written well. -/
def offOneLine? : List Char → Option (List Char)
  | '\\' :: '\\' :: rest => (offOneLine? rest).map ('\\' :: ·)
  | '\\' :: 'n' :: rest => (offOneLine? rest).map ('\n' :: ·)
  | '\\' :: 'r' :: rest => (offOneLine? rest).map ('\r' :: ·)
  | '\\' :: _ => none
  | c :: rest => (offOneLine? rest).map (c :: ·)
  | [] => some []

/-- The tag of a kind with a size. -/
def DigestKind.tagFor (k : DigestKind) (size : Nat) : String :=
  if k.varies && size ≠ k.size then k.tag ++ "-" ++ (8 * size).repr else k.tag

/-- A line with a digest and a name. -/
def digestLine (k : DigestKind) (size : Nat) (tagged binary zero : Bool) (name : String)
    (bytes : Bytes) : String :=
  let hex := hexText (k.digest size bytes)
  let escapes := !zero && breaksLines name
  let shown := if escapes then onOneLine name else name
  (if escapes then "\\" else "") ++
    (if tagged then k.tagFor size ++ " (" ++ shown ++ ") = " ++ hex
    else hex ++ (if binary then " *" else "  ") ++ shown) ++ if zero then "\x00" else "\n"

/-- A digest that was written down: its kind, its size, its digits and the name of the file. -/
structure Noted where
  kind : DigestKind
  size : Nat
  hex : List Char
  name : String

def isHex (c : Char) : Bool :=
  (Floating.digitValue? 16 c).isSome

/-- The digest in a line without a tag. -/
def plainNoted? (k : DigestKind) (escaped : Bool) (cs : List Char) : Option Noted := do
  let hex := cs.takeWhile isHex
  let size := if k.varies then hex.length / 2 else k.size
  if hex.length ≠ 2 * size || size = 0 || k.size < size then none
  else
    match cs.drop hex.length with
    | gap :: rest =>
      if gap ≠ ' ' && gap ≠ '\t' then none
      else
        let name := match rest with
          | ' ' :: c :: name | '*' :: c :: name => c :: name
          | rest => rest
        if name = [] then none
        else
          let name ← if escaped then offOneLine? name else some name
          some ⟨k, size, hex, String.ofList name⟩
    | [] => none

/-- The digest in a line with the tag of some kind. -/
def taggedNoted? (k : DigestKind) (escaped : Bool) (cs : List Char) : Option Noted := do
  let tag := k.tag.toList
  if !tag.isPrefixOf cs then none
  else
    let rest := cs.drop tag.length
    let (size, rest) ← match rest with
      | '-' :: rest =>
        let digits := rest.takeWhile Char.isDigit
        match decimal? digits with
        | some n =>
          if k.varies && n % 8 = 0 && 0 < n && n ≤ 8 * k.size then
            some (n / 8, rest.drop digits.length)
          else none
        | none => none
      | rest => some (k.size, rest)
    let rest := if rest.head? = some ' ' then rest.drop 1 else rest
    match rest with
    | '(' :: body =>
      let hex := (body.reverse.takeWhile isHex).reverse
      let front := (body.take (body.length - hex.length)).reverse
      let front := front.dropWhile fun c => c = ' ' || c = '\t'
      match front with
      | '=' :: front =>
        match front.dropWhile fun c => c = ' ' || c = '\t' with
        | ')' :: name =>
          if hex.length ≠ 2 * size then none
          else
            let name ← if escaped then offOneLine? name.reverse else some name.reverse
            some ⟨k, size, hex, String.ofList name⟩
        | _ => none
      | _ => none
    | _ => none

/-- The digest in a line: of the kinds that may be named by a tag, or without a tag of a kind. -/
def noted? (tags : List DigestKind) (plain : Option DigestKind) (line : String) : Option Noted :=
  let cs := line.toList.dropWhile fun c => c = ' ' || c = '\t'
  let escaped := cs.head? = some '\\'
  let cs := if escaped then cs.drop 1 else cs
  match tags.find? fun k => k.tag.toList.isPrefixOf cs with
  | some k => taggedNoted? k escaped cs
  | none => plain.bind fun k => plainNoted? k escaped cs

/-! ## Checking -/

def plural (n : Nat) (one many : String) : String :=
  n.repr ++ " " ++ (if n = 1 then one else many)

/-- What a check of some lines has come to: what was written, reversed, how many lines were not well
written, how many files could not be read, how many differed, and whether any line was well written
and any file as noted. -/
structure Check where
  writes : List (Outlet × Bytes) := []
  bad : Nat := 0
  unread : Nat := 0
  wrong : Nat := 0
  noted : Bool := false
  matched : Bool := false

/-- How files are checked. -/
structure Checking where
  tool : String
  tags : List DigestKind
  plain : Option DigestKind
  found : Options

namespace Checking

def quiet (c : Checking) : Bool :=
  c.found.has "quiet" || c.found.has "status"

/-- Checks the file of one line. -/
def one (c : Checking) (s : Scene) (source : String) (isInput : Bool) (p : Check)
    (item : Bytes × Nat) : Check :=
  let line := String.ofList (Text.Utf8.lossy item.1)
  let say (p : Check) (name text : String) : Check :=
    if c.found.has "status" then p
    else
      let escapes := breaksLines name
      let shown := if escapes then "\\" ++ onOneLine name else name
      { p with writes := (.out, Bytes.ofString (shown ++ ": " ++ text ++ "\n")) :: p.writes }
  if item.1 = [] || item.1.head? = some 0x23 then p
  else
    match (noted? c.tags c.plain line).filter fun n => !(isInput && n.name = "-") with
    | none =>
      let kind := ((c.plain.map (·.tag)).getD "CRC")
      let told := if c.found.has "warn" then
          [told (c.tool ++ ": " ++ Quoting.name source ++ ": " ++ item.2.repr ++
            ": improperly formatted " ++ kind ++ " checksum line")]
        else []
      { p with bad := p.bad + 1, writes := told ++ p.writes }
    | some n =>
      let p := { p with noted := true }
      let flow := if n.name = "-" then .ok s.input else Flow.named s.files s.input n.name
      match flow with
      | .error e =>
        if c.found.has "ignore-missing" && e = .noEntry then p
        else
          let p := { p with
            unread := p.unread + 1
            writes := told (c.tool ++ ": " ++ Quoting.name n.name ++ ": " ++ e.reason) :: p.writes }
          say p n.name "FAILED open or read"
      | .ok (flow : Flow) =>
        if hexText (n.kind.digest n.size flow.first) = String.ofList (n.hex.map Char.toLower) then
          let p := { p with matched := true }
          if c.quiet then p else say p n.name "OK"
        else say { p with wrong := p.wrong + 1 } n.name "FAILED"

/-- Checks the files of all lines in a text, and says whether they are as noted. -/
def run (c : Checking) (s : Scene) (name : String) (bytes : Bytes) : List (Outlet × Bytes) × Bool :=
  let source := if name = "-" then "standard input" else name
  let p := ((linesOf bytes).zipIdx 1).foldl (c.one s source (name = "-")) {}
  let warn (n : Nat) (text : String) : List (Outlet × Bytes) :=
    if n = 0 || c.found.has "status" then [] else [told (c.tool ++ ": WARNING: " ++ text)]
  let shown := c.tool ++ ": " ++ Quoting.name source
  if !p.noted then
    (p.writes.reverse ++ [told (shown ++ ": no properly formatted checksum lines found")], false)
  else
    (p.writes.reverse ++
      warn p.bad (plural p.bad "line is improperly formatted" "lines are improperly formatted") ++
      warn p.unread (plural p.unread "listed file could not be read"
        "listed files could not be read") ++
      warn p.wrong (plural p.wrong "computed checksum did NOT match"
        "computed checksums did NOT match") ++
      (if c.found.has "ignore-missing" && !p.matched && !c.found.has "status" then
        [told (shown ++ ": no file was verified")] else []),
      p.matched && p.unread = 0 && p.wrong = 0 && !(c.found.has "strict" && 0 < p.bad))

def deed (c : Checking) (s : Scene) (f : Found) : Deed :=
  let results := f.texts.map fun (name, bytes) => c.run s name bytes
  { f.answer [] with
    writes := f.errors ++ results.flatMap (·.1)
    code := some (if f.isFine && results.all (·.2) then 0 else 1) }

end Checking

/-- What is wrong with the options of a tool for digests. -/
def misusedDigest? (tool : String) (found : Options) : Option String :=
  let checks := found.has "check"
  let meaningless (what : String) : Option String :=
    some (hint tool (what ++ " meaningless when verifying checksums"))
  match ["ignore-missing", "status", "warn", "quiet", "strict"].find? found.has with
  | some name =>
    if checks then common checks meaningless
    else some (hint tool ("the --" ++ name ++ " option is meaningful only when verifying checksums"))
  | none => common checks meaningless
where
  /-- The options that say how bytes are read, in order. -/
  modes (found : Options) : List String :=
    (found.map (·.1)).filter fun name => ["tag", "binary", "text"].contains name
  common (checks : Bool) (meaningless : String → Option String) : Option String :=
    if checks && found.has "tag" then meaningless "the --tag option is"
    else if checks && found.has "zero" then
      some (hint tool "the --zero option is not supported when verifying checksums")
    else if checks && (found.has "binary" || found.has "text") then
      meaningless "the --binary and --text options are"
    else if found.has "tag" && (modes found).getLast? = some "text" then
      some (hint tool "--tag does not support --text mode")
    else none

/-- The size of a digest in bytes, as bits in an option say. -/
def digestSize (tool : String) (k : DigestKind) (found : Options) : Except String Nat :=
  match found.value? "length" with
  | none => .ok k.size
  | some text =>
    let wrong := tool ++ ": invalid length: " ++ Quoting.value text
    match decimal? text.toList with
    | none => .error wrong
    | some 0 => .ok k.size
    | some n =>
      if 8 * k.size < n then
        .error (wrong ++ "\n" ++ tool ++ ": maximum digest length for " ++ Quoting.value k.tag ++
          " is " ++ (8 * k.size).repr ++ " bits")
      else if n % 8 ≠ 0 then
        .error (wrong ++ "\n" ++ tool ++ ": length is not a multiple of 8")
      else .ok (n / 8)

/-- What is said of a file that cannot be read, or of one with digests. -/
def readBlame (checks : Bool) : Blame := fun name e =>
  if checks && e = .isDirectory then Quoting.name name ++ ": read error" else plainly name e

/-- Shows or checks digests of one kind. -/
def digestTool (k : DigestKind) (s : Scene) : Deed :=
  let forms := digestForms ++ if k.varies then [.valued 'l' "length"] else []
  reading s k.tool 1 forms fun found operands =>
    match digestSize k.tool k found, misusedDigest? k.tool found with
    | .error text, _ | _, some text => complaint s text 1
    | .ok size, none =>
      finding s k.tool (readBlame (found.has "check")) operands fun f =>
        if found.has "check" then (Checking.mk k.tool [k] (some k) found).deed s f
        else
          f.answer (Bytes.ofString (String.join (f.texts.map fun (name, bytes) =>
            digestLine k size (found.has "tag") (found.has "binary") (found.has "zero") name bytes)))

/-! ## Sums -/

/-- The kinds of checksums and digests by name. -/
def cksumKinds : List String :=
  ["bsd", "sysv", "crc"] ++ allDigestKinds.map (·.option)

/-- What is shown of some bytes for a kind of checksum. -/
def sumOf (kind : String) (bytes : Bytes) : String :=
  match kind with
  | "bsd" =>
    padded 10 5 (Digest.rotatedSum bytes) ++ " " ++ padLeft 5 ((bytes.length + 1023) / 1024).repr
  | "sysv" => (Digest.foldedSum bytes).repr ++ " " ++ ((bytes.length + 511) / 512).repr
  | _ => (Digest.crc bytes).repr ++ " " ++ bytes.length.repr

/-- Shows checksums, or digests of some kind. -/
def cksum (s : Scene) : Deed :=
  reading s "cksum" 1 ([.valued 'a' "algorithm", .valued 'l' "length", .longFlag "debug",
    .longFlag "untagged"] ++ digestForms) fun found operands =>
    let kind := (found.value? "algorithm").getD "crc"
    let k? := allDigestKinds.find? (·.option = kind)
    if !cksumKinds.contains kind then
      complaint s (hint "cksum" ("invalid argument " ++ Quoting.value kind ++
        " for '--algorithm'\nValid arguments are:" ++ String.join (cksumKinds.map fun name =>
          "\n  - " ++ Quoting.value name))) 1
    else if found.has "length" && !k?.any (·.varies) then
      complaint s "cksum: --length is only supported with --algorithm=blake2b" 1
    else if found.has "check" && found.has "algorithm" && k?.isNone then
      complaint s "cksum: --check is not supported with --algorithm=\x7bbsd,sysv,crc\x7d" 1
    else
      match k?.map (digestSize "cksum" · found), misusedDigest? "cksum" found with
      | some (.error text), _ | _, some text => complaint s text 1
      | size?, none =>
        finding s "cksum" (readBlame (found.has "check")) operands fun f =>
          if found.has "check" then
            (Checking.mk "cksum" (k?.elim allDigestKinds fun k => [k]) k? found).deed s f
          else
            match k?, size? with
            | some k, some (.ok size) =>
              f.answer (Bytes.ofString (String.join (f.texts.map fun (name, bytes) =>
                digestLine k size (!found.has "untagged") false (found.has "zero") name bytes)))
            | _, _ =>
              let ending := if found.has "zero" then "\x00" else "\n"
              f.answer (Bytes.ofString (String.join (f.texts.map fun (name, bytes) =>
                sumOf kind bytes ++ (if operands.isEmpty then "" else " " ++ name) ++ ending)))

/-- Shows sums of 16 bits and numbers of blocks. -/
def sum (s : Scene) : Deed :=
  reading s "sum" 1 [.flag 'r' "r", .flag 's' "sysv"] fun found operands =>
    let asked := found.filter fun (name, _) => name = "r" || name = "sysv"
    let kind := if (asked.getLast?).any (·.1 = "sysv") then "sysv" else "bsd"
    finding s "sum" plainly operands fun f =>
      f.answer (Bytes.ofString (String.join (f.texts.map fun (name, bytes) =>
        sumOf kind bytes ++ (if operands.isEmpty then "" else " " ++ name) ++ "\n")))

end Scratchpad.Shell.Tools
