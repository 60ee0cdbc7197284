import Scratchpad.Decimal.Floating
import Scratchpad.Shell.Options
import Scratchpad.Shell.Quoting

/-!
# What tools share

How tools read their options, find what their operands name, and speak of what goes wrong. Every
tool works on bytes: its classes of characters are those of ASCII, and its order is that of the
bytes.
-/

namespace Scratchpad.Shell.Tools

open Deed (complaint ofWrites passing told waiting)

/-! ## Arguments -/

def hint (tool text : String) : String :=
  tool ++ ": " ++ text ++ "\nTry '" ++ tool ++ " --help' for more information."

def missingOperand (s : Scene) (tool : String) : Deed :=
  complaint s (hint tool "missing operand") 1

def extraOperand (s : Scene) (tool operand : String) : Deed :=
  complaint s (hint tool ("extra operand " ++ Quoting.value operand)) 1

/-- Goes on with the options and operands of a tool, or complains of them with some exit code. -/
def reading (s : Scene) (tool : String) (code : Nat) (forms : List OptionForm)
    (go : Options → List String → Deed) : Deed :=
  match Options.read forms s.args with
  | .error f => complaint s (hint tool f.message) code
  | .ok (found, operands) => go found operands

/-- The same for a tool whose options all stand in front of its operands. -/
def readingFirst (s : Scene) (tool : String) (code : Nat) (forms : List OptionForm)
    (go : Options → List String → Deed) : Deed :=
  match Options.readFrom forms false none s.args with
  | .error f => complaint s (hint tool f.message) code
  | .ok (found, operands) => go found operands

/-- A number that stands for an option behind a dash, with the option in its place. -/
def expandCount (letter : String) (args : List String) : List String :=
  args.map fun arg =>
    match arg.toList with
    | '-' :: c :: cs => if c.isDigit then "-" ++ letter ++ String.ofList (c :: cs) else arg
    | _ => arg

/-! ## What operands name -/

/-- What is said of a file that cannot be read. -/
abbrev Blame := String → Files.Error → String

/-- The usual blame: the name and the reason. -/
def plainly : Blame := fun name e => Quoting.name name ++ ": " ++ e.reason

def cannotOpen : Blame := fun name e =>
  if e = .isDirectory then "error reading " ++ Quoting.always name ++ ": " ++ e.reason
  else "cannot open " ++ Quoting.always name ++ " for reading: " ++ e.reason

/-- The flows that operands name, a dash or no operand naming the input, and what is left of the
input. -/
def sources (s : Scene) (operands : List String) :
    List (String × Except Files.Error Flow) × Flow :=
  let names := if operands.isEmpty then ["-"] else operands
  names.foldl (fun (acc : List (String × Except Files.Error Flow) × Flow) name =>
    if name = "-" || name = "/dev/stdin" then (acc.1 ++ [(name, .ok acc.2)], .empty)
    else (acc.1 ++ [(name, Flow.named s.files acc.2 name)], acc.2)) ([], s.input)

/-- What was found under the names of some operands: the names and the bytes of those that can be
read, what is to be said of the others, and what is left of the input. -/
structure Found where
  texts : List (String × Bytes)
  errors : List (Outlet × Bytes)
  unread : Flow

namespace Found

def isFine (f : Found) : Bool :=
  f.errors.isEmpty

def bytes (f : Found) : Bytes :=
  f.texts.flatMap (·.2)

/-- The exit code of a tool that has nothing else to complain of. -/
def code (f : Found) : Nat :=
  if f.isFine then 0 else 1

end Found

/-- Reads all operands to their ends, unless one has none. -/
def found? (s : Scene) (tool : String) (blame : Blame) (operands : List String) : Option Found :=
  let (flows, unread) := sources s operands
  if flows.any fun (_, flow) => flow.toOption.any Flow.isEndless then none
  else
    some {
      texts := flows.filterMap fun (name, flow) => flow.toOption.map fun f => (name, f.first)
      errors := flows.filterMap fun (name, flow) =>
        match flow with
        | .error e => some (told (tool ++ ": " ++ blame name e))
        | .ok _ => none
      unread }

/-- Goes on with what operands name; a tool whose operands never end waits for ever. -/
def finding (s : Scene) (tool : String) (blame : Blame) (operands : List String)
    (go : Found → Deed) : Deed :=
  match found? s tool blame operands with
  | none => waiting
  | some f => go f

/-- Some output for what was found, behind the complaints. -/
def Found.answer (f : Found) (out : Bytes) : Deed where
  writes := f.errors ++ [(.out, out)]
  onward := []
  unread := f.unread
  lastsMs := 0
  code := some f.code

/-- Runs a filter on the bytes of all operands that can be read, complaining of the others. -/
def filter (s : Scene) (tool : String) (blame : Blame) (operands : List String)
    (f : Bytes → Bytes) : Deed :=
  finding s tool blame operands fun found =>
    found.answer (if found.texts.isEmpty then [] else f found.bytes)

/-- Runs a filter that does the same to every line. It goes on for ever with an input that does. -/
def filterLines (s : Scene) (tool : String) (blame : Blame) (operands : List String)
    (f : Bytes → Bytes) : Deed :=
  let whole := s.input.first.getLast?.all (· = newline) && s.input.cycle.getLast? = some newline
  if s.input.isEndless && whole && (operands.isEmpty || operands = ["-"]) then
    passing { first := f s.input.first, cycle := f s.input.cycle } .empty 0
  else filter s tool blame operands f

/-- Gives a file its contents for a tool, or complains. -/
def writing (s : Scene) (tool : String) (blame : Blame) (path : String) (bytes : Bytes) (d : Deed) :
    Deed :=
  match path with
  | "/dev/stdout" | "-" => { d with writes := d.writes ++ [(.out, bytes)] }
  | "/dev/stderr" => { d with writes := d.writes ++ [(.err, bytes)] }
  | "/dev/null" => d
  | path =>
    match (d.files.getD s.files).write (Files.Path.ofString path) bytes with
    | .ok files => { d with files := some files }
    | .error e =>
      { d with writes := d.writes ++ [told (tool ++ ": " ++ blame path e)], code := some 1 }

/-! ## Bytes -/

def isBlank (b : UInt8) : Bool :=
  b == 0x20 || b == 9

def isSpace (b : UInt8) : Bool :=
  b == 0x20 || (9 ≤ b && b ≤ 13)

def isDigit (b : UInt8) : Bool :=
  0x30 ≤ b && b ≤ 0x39

def isUpper (b : UInt8) : Bool :=
  0x41 ≤ b && b ≤ 0x5A

def isLower (b : UInt8) : Bool :=
  0x61 ≤ b && b ≤ 0x7A

def isLetter (b : UInt8) : Bool :=
  isUpper b || isLower b

def toUpper (b : UInt8) : UInt8 :=
  if isLower b then b - 0x20 else b

/-- How a byte looks when it is made visible: a control character with a caret, a high byte with a
mark in front. -/
def visible (b : UInt8) : Bytes :=
  let low (b : UInt8) : Bytes :=
    if b < 0x20 then [0x5E, b + 0x40] else if b = 0x7F then [0x5E, 0x3F] else [b]
  if b < 0x80 then low b else [0x4D, 0x2D] ++ low (b - 0x80)

/-- The bytes of a named class. -/
def classOf? (name : String) : Option Bytes :=
  let all := (List.range 128).map UInt8.ofNat
  let visible (b : UInt8) : Bool := 0x20 < b && b < 0x7F
  match name with
  | "upper" => some (all.filter isUpper)
  | "lower" => some (all.filter isLower)
  | "digit" => some (all.filter isDigit)
  | "xdigit" => some (Bytes.ofString "0123456789ABCDEFabcdef")
  | "alpha" => some (all.filter isLetter)
  | "alnum" => some (all.filter fun b => isLetter b || isDigit b)
  | "space" => some (all.filter isSpace)
  | "blank" => some [9, 0x20]
  | "punct" => some (all.filter fun b => visible b && !isLetter b && !isDigit b)
  | "print" => some (all.filter Quoting.isPrintable)
  | "graph" => some (all.filter visible)
  | "cntrl" => some (all.filter fun b => b < 0x20 || b == 0x7F)
  | _ => none

/-- Parts with the bytes that end them; the last one may have none. -/
def partsWithEnds (mark : UInt8) (bytes : Bytes) : List Bytes :=
  let parts := (partsOf mark bytes).map fun part => part ++ [mark]
  if bytes.getLast? = some mark ∨ bytes = [] then parts
  else parts.dropLast ++ (parts.getLast?.map List.dropLast).toList

/-- Lines with the newlines that end them. -/
def linesWithEnds (bytes : Bytes) : List Bytes :=
  partsWithEnds newline bytes

/-- The byte that ends lines, which an option may change to the null byte. -/
def lineEnd (found : Options) (option : String) : UInt8 :=
  if found.has option then 0 else newline

/-! ## Numbers -/

def decimal? (cs : List Char) : Option Nat :=
  if cs.isEmpty || !cs.all Char.isDigit then none
  else some (cs.foldl (fun n c => n * 10 + (c.toNat - '0'.toNat)) 0)

def integer? (text : String) : Option Int :=
  match text.toList with
  | '-' :: cs => (decimal? cs).map fun n => -(n : Int)
  | '+' :: cs => (decimal? cs).map fun n => (n : Int)
  | cs => (decimal? cs).map fun n => (n : Int)

/-- What a unit behind a count stands for. -/
def unit? (cs : List Char) : Option Nat :=
  let power? (c : Char) : Option Nat :=
    ['K', 'M', 'G', 'T', 'P', 'E', 'Z', 'Y', 'R', 'Q'].findIdx? (· = c)
  match cs with
  | [] => some 1
  | ['b'] => some 512
  | ['k'] => some 1024
  | ['k', 'B'] => some 1000
  | [c] | [c, 'i', 'B'] => (power? c).map fun i => Nat.pow 1024 (i + 1)
  | [c, 'B'] => (power? c).map fun i => Nat.pow 1000 (i + 1)
  | _ => none

/-- A count, which may have a unit. -/
def count? (text : String) : Option Nat :=
  let cs := text.toList
  let cs := if cs.head? = some '+' then cs.drop 1 else cs
  let digits := cs.takeWhile Char.isDigit
  match decimal? digits, unit? (cs.drop digits.length) with
  | some n, some unit => some (n * unit)
  | _, _ => none

/-- A stretch of time. -/
inductive Span
  | lasts (ms : Nat)
  | endless

/-- How many milliseconds a unit of time has. -/
def timeUnit? : List Char → Option Nat
  | [] | ['s'] => some 1000
  | ['m'] => some 60000
  | ['h'] => some 3600000
  | ['d'] => some 86400000
  | _ => none

/-- The time that a number of seconds, minutes, hours or days stands for. Of a plain decimal numeral
no digit is lost. -/
def span? (text : String) : Option Span :=
  let cs := text.toList
  let whole := cs.takeWhile Char.isDigit
  let rest := cs.drop whole.length
  let (part, rest) := match rest with
    | '.' :: r => (r.takeWhile Char.isDigit, r.dropWhile Char.isDigit)
    | r => ([], r)
  match decimal? (whole ++ part), timeUnit? rest with
  | some n, some unit => some (.lasts (n * unit / Nat.pow 10 part.length))
  | _, _ =>
    match Floating.read? .extended cs with
    | some (.infinite false, rest) => (timeUnit? rest).map fun _ => .endless
    | some (.finite negative x, rest) =>
      if negative && x.mantissa ≠ 0 then none
      else (timeUnit? rest).map fun unit => .lasts (x.numerator * unit / x.denominator)
    | _ => none

/-- The digits of a number in a base, with zeros in front. -/
def padded (base width n : Nat) : String :=
  let digits := Nat.toDigits base n
  String.ofList (List.replicate (width - digits.length) '0' ++ digits)

/-- A number in octal with zeros in front. -/
def padOctal (width n : Nat) : String :=
  padded 8 width n

def padRight (width : Nat) (text : String) : String :=
  text ++ String.ofList (List.replicate (width - text.length) ' ')

def padLeft (width : Nat) (text : String) : String :=
  String.ofList (List.replicate (width - text.length) ' ') ++ text

end Scratchpad.Shell.Tools
