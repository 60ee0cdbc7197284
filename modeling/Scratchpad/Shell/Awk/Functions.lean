import Scratchpad.Shell.Awk.Tokens
import Scratchpad.Shell.Format
import Scratchpad.Time.Form

/-!
# Functions of the record language

What the functions of the record language do with numbers and texts, as far as nothing but their
arguments matters.
-/

namespace Scratchpad.Shell.Awk

/-! ## Numbers -/

/-- The machine's number for a floating one. -/
def machineNumber : Floating → Float
  | .finite negative x =>
    let f := (Float.ofNat x.mantissa).scaleB x.exponent
    if negative then -f else f
  | .infinite negative => if negative then -1.0 / 0.0 else 1.0 / 0.0
  | .nan _ => 0.0 / 0.0

/-- The floating number that a number of the machine is. What is no number has a sign. -/
def ofMachine (f : Float) : Floating :=
  let bits := f.toBits.toNat
  let negative := bits >>> 63 = 1
  let exponent := (bits >>> 52) % 2048
  let fraction := bits % (1 <<< 52)
  if exponent = 2047 then (if fraction = 0 then .infinite negative else .nan true)
  else if exponent = 0 then .finite negative ⟨fraction, -1074⟩
  else .finite negative ⟨fraction + (1 <<< 52), (exponent : Int) - 1075⟩

def arithmetic (op : Arithmetic) (a b : Floating) : Floating :=
  match op with
  | .add => a.add .double b
  | .sub => a.sub .double b
  | .mul => a.mul .double b
  | .div => a.div .double b
  | .rem => a.rem .double b
  | .pow => ofMachine ((machineNumber a).pow (machineNumber b))

/-- A number without its part behind the point. -/
def wholePart (x : Floating) : Floating :=
  match x.truncate? with
  | some n => if n = 0 && x.isNegative then .finite true .zero else .ofInt .double n
  | none => x

def relationHolds (r : Relation) (o : Option Ordering) : Bool :=
  match r, o with
  | .less, some .lt | .more, some .gt | .equal, some .eq => true
  | .atMost, some o => o ≠ .gt
  | .atLeast, some o => o ≠ .lt
  | .unequal, o => o ≠ some .eq
  | _, _ => false

/-! ## Texts -/

/-- A number of 32 bits, of which the first is for the sign. -/
def wrapped (n : Int) : Int :=
  (n + 2147483648) % 4294967296 - 2147483648

/-- The bytes of a text from one place on, as many as are asked for; places are counted from one. A
place in front of the text stands for its start, and a negative one asks for as many more bytes as it
says. -/
def part (text : Bytes) (start : Floating) (size : Option Floating) : Bytes :=
  let first := wholeOf start
  let size := match size with
    | some n => if first < 0 then wrapped (wholeOf n - first) else wholeOf n
    | none => if first < 0 then mostWhole + first else mostWhole
  (text.drop (first - 1).toNat).take size.toNat

/-- Where a text is in another one, counted from one; nought if it is not there. -/
def indexOf (text sought : Bytes) : Nat :=
  let rec go : Nat → Bytes → Nat
    | _, [] => 0
    | i, b :: rest => if sought.isPrefixOf (b :: rest) then i else go (i + 1) rest
  if sought = [] then 1 else go 1 text

/-- A piece of what stands for a match: some bytes, or the match. -/
inductive Filling
  | bytes (bytes : Bytes)
  | matched

/-- The pieces of a replacement: a sign for the match, which a backslash makes an ordinary one. -/
def pieces : Bytes → List Filling
  | [] => []
  | 0x5C :: 0x5C :: 0x26 :: r => .bytes [0x5C] :: .matched :: pieces r
  | 0x5C :: 0x26 :: r => .bytes [0x26] :: pieces r
  | 0x5C :: 0x5C :: r => .bytes [0x5C, 0x5C] :: pieces r
  | 0x26 :: r => .matched :: pieces r
  | b :: r => .bytes [b] :: pieces r

/-- A text with something in place of its first match, or of all, and how many there are. -/
def substitute (p : Pattern) (replacement : Bytes) (all : Bool) (text : Bytes) : Option (Bytes × Nat) :=
  let found := if all then p.findAll text else (p.find? (.ofText text)).toList
  if found = [] then none
  else
    let insertion := pieces replacement
    let (out, spot) := found.foldl (fun (acc : List Bytes × Spot) (b, e) =>
      let matched := b.upTo e
      let made := insertion.flatMap fun
        | .bytes bytes => bytes
        | .matched => matched
      (made :: acc.2.upTo b :: acc.1, e)) ([], .ofText text)
    some (out.reverse.flatten ++ spot.rest, found.length)

/-! ## Formats -/

/-- Why a format cannot be filled: there are too few values, a directive is none, or there is no room for
what is made. -/
inductive FormatFault
  | tooFew
  | improper (number : Nat)
  | tooLong

/-- A value in the way that a directive says. -/
def fill (layout : Format.Layout) (letter : Char) (textFormat : Bytes) (v : Value) : Option Bytes :=
  let whole := wholeOf v.toNumber
  let unsigned := unsignedOf v.toNumber
  let mark (lead : List Char) : List Char := if layout.marked && unsigned ≠ 0 then lead else []
  match letter with
  | 'c' =>
    let byte := match v.numeric? with
      | some _ => if v matches .unset then [] else [UInt8.ofNat (whole % 256).toNat]
      | none => (v.toText textFormat).take 1
    some (Format.textField { layout with precision := none } (if byte = [] then [0] else byte))
  | 's' => some (Format.textField layout (v.toText textFormat))
  | 'd' | 'i' =>
    let sign := if whole < 0 then ['-'] else if layout.plus then ['+']
      else if layout.space then [' '] else []
    some (Format.numberField layout sign (Nat.toDigits 10 whole.natAbs))
  | 'u' => some (Format.numberField layout [] (Nat.toDigits 10 unsigned))
  | 'o' => some (Format.numberField layout (mark ['0']) (Nat.toDigits 8 unsigned))
  | 'x' => some (Format.numberField layout (mark ['0', 'x']) (Nat.toDigits 16 unsigned))
  | 'X' =>
    some (Format.numberField layout (mark ['0', 'X']) ((Nat.toDigits 16 unsigned).map Char.toUpper))
  | letter =>
    if ['e', 'E', 'f', 'F', 'g', 'G', 'a', 'A'].contains letter then
      Format.floating? layout 53 letter v.toNumber
    else none

/-- A width or a precision: digits, or a star for the next value. -/
def extent (values : List Value) (cs : List Char) : Option (Int × List Value × List Char) :=
  match cs with
  | '*' :: r =>
    match values with
    | v :: values => some (wholeOf v.toNumber, values, r)
    | [] => none
  | cs =>
    let (n, r) := Format.digitsOf cs
    some (n, values, r)

/-- A directive behind its sign, filled with the next value: what it gives, and what is left of the
values and the format. -/
def directive (most : Option Nat) (number : Nat) (textFormat : Bytes) (values : List Value)
    (cs : List Char) : Except FormatFault (Bytes × List Value × List Char) := do
  let (layout, r) := Format.flags .narrow .plain cs
  let some (width, values, r) := extent values r | throw .tooFew
  let layout := layout.ofWidth width
  let (layout, values, r) ← match r with
    | '.' :: r =>
      match extent values r with
      | some (n, values, r) => pure (layout.ofPrecision n, values, r)
      | none => throw .tooFew
    | r => pure (layout, values, r)
  if most.any (· ≤ layout.width) then throw .tooLong
  match r.dropWhile fun c => c = 'h' || c = 'l' with
  | [] => throw (.improper number)
  | letter :: rest =>
    match values with
    | [] => throw .tooFew
    | v :: values =>
      match fill layout letter textFormat v with
      | some bytes => return (bytes, values, rest)
      | none => throw (.improper number)

/-- A format filled with values; those that are left over do not matter. `made` bytes are there
already. -/
def fillAll (textFormat : Bytes) (most : Option Nat) : Nat → Nat → Nat → List Bytes → List Value →
    List Char → Except FormatFault Bytes
  | 0, _, _, done, _, _ => .ok done.reverse.flatten
  | _, _, _, done, _, [] => .ok done.reverse.flatten
  | fuel + 1, number, made, done, values, cs => do
    let (bytes, number, values, r) ← match cs with
      | '%' :: '%' :: r => pure ([0x25], number, values, r)
      | '%' :: r => do
        let (bytes, values, r) ← directive most number textFormat values r
        pure (bytes, number + 1, values, r)
      | c :: r => pure ([UInt8.ofNat c.toNat], number, values, r)
      | [] => pure ([], number, values, [])
    let made := made + bytes.length
    if most.any (· ≤ made) then throw .tooLong
    fillAll textFormat most fuel number made (bytes :: done) values r

/-- A format, whose bytes stand for themselves, filled with values; there may be only so many bytes. -/
def format (textFormat : Bytes) (most : Option Nat) (template : Bytes) (values : List Value) :
    Except FormatFault Bytes :=
  fillAll textFormat most (template.length + 1) 1 0 [] values (charsOf template)

/-! ## Times -/

/-- A whole number of seconds. -/
def secondsOf (x : Floating) : Int :=
  (x.truncate?).getD (-9223372036854775808)

/-- The whole numbers at the front of a text, with blanks before each. -/
def leadingWholes : Nat → List Char → List Int
  | 0, _ => []
  | n + 1, cs =>
    match cs.dropWhile Floating.isSpace with
    | '-' :: c :: r =>
      if c.isDigit then
        let (k, rest) := Format.digitsOf (c :: r)
        (-k : Int) :: leadingWholes n rest
      else []
    | c :: r =>
      let cs := if c = '+' then r else c :: r
      if cs.head?.any Char.isDigit then
        let (k, rest) := Format.digitsOf cs
        (k : Int) :: leadingWholes n rest
      else []
    | [] => []

/-- The time that a text of six numbers stands for: year, month, day, hour, minute and second, of which
any may be out of range. A seventh one, if it is positive, says that it is summer time. -/
def timeOf (zone : Time.Zone) (text : Bytes) : Int :=
  match leadingWholes 7 (charsOf text) with
  | year :: month :: day :: hour :: minute :: second :: _ =>
    zone.seconds (Time.Moment.normal { year, month, day, hour, minute, second })
  | _ => -1

/-- A time in a form. -/
def timeText (zone : Time.Zone) (seconds : Int) (form : Bytes) : Bytes :=
  Bytes.ofString (Time.Form.render ⟨seconds, 0, zone⟩ false (shownText form))

end Scratchpad.Shell.Awk
