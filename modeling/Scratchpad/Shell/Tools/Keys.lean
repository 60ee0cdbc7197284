import Scratchpad.Decimal.Floating
import Scratchpad.Shell.Tools.Basic

/-!
# Keys

Lines are ordered by keys. A key is a stretch of a line, from a character of one field to a character
of another, together with the way in which it is compared: as bytes, of which some may be left out or
changed, as a number in one of several notations, as a month, or as a version. A rule is known by its
letter.
-/

namespace Scratchpad.Shell.Tools

/-- Where a key begins and ends, counted from nought, which blanks it leaves out, and its letters. A
key without an end goes on to the end of the line. -/
structure Key where
  field : Nat
  char : Nat
  last : Option (Nat × Nat)
  skipsBefore : Bool
  skipsWithin : Bool
  letters : List Char

namespace Key

/-- The whole line. -/
def whole : Key := ⟨0, 0, none, false, false, []⟩

def has (k : Key) (letter : Char) : Bool :=
  k.letters.contains letter

/-- Does a key follow the rules for all keys rather than its own? -/
def isPlain (k : Key) : Bool :=
  !k.skipsBefore && !k.skipsWithin && k.letters.all (· = 'r')

/-- Skips fields, each with the byte that parts it from the next one. -/
def skipParted (tab : UInt8) : Nat → Bytes → Bytes
  | 0, line => line
  | n + 1, line => skipParted tab n ((line.dropWhile (· ≠ tab)).drop 1)

def isGap (b : UInt8) : Bool :=
  isBlank b || b = newline

/-- Skips fields, each with the blanks in front of it. -/
def skipBlanked : Nat → Bytes → Bytes
  | 0, line => line
  | n + 1, line => skipBlanked n ((line.dropWhile isGap).dropWhile fun b => !isGap b)

def skip (tab : Option UInt8) (n : Nat) (line : Bytes) : Bytes :=
  match tab with
  | some tab => skipParted tab (min n line.length) line
  | none => skipBlanked (min n line.length) line

/-- How many bytes of a line a key leaves out in front. -/
def start (k : Key) (tab : Option UInt8) (line : Bytes) : Nat :=
  let rest := skip tab k.field line
  let rest := if k.skipsBefore then rest.dropWhile isGap else rest
  line.length - (rest.drop k.char).length

/-- Before which byte of a line a key ends. -/
def stop (k : Key) (tab : Option UInt8) (line : Bytes) : Nat :=
  match k.last with
  | none => line.length
  | some (field, 0) =>
    match tab with
    | none => line.length - (skipBlanked (min (field + 1) line.length) line).length
    | some tab =>
      let rest := skip (some tab) field line
      line.length - (rest.dropWhile (· ≠ tab)).length
  | some (field, n + 1) =>
    let rest := skip tab field line
    let rest := if k.skipsWithin then rest.dropWhile isGap else rest
    line.length - (rest.drop (n + 1)).length

/-- The bytes of a line that a key compares. -/
def extract (k : Key) (tab : Option UInt8) (line : Bytes) : Bytes :=
  let first := k.start tab line
  let bytes := (line.drop first).take (k.stop tab line - first)
  let bytes :=
    if k.has 'd' then bytes.filter fun b => isGap b || isLetter b || isDigit b
    else if k.has 'i' then bytes.filter Quoting.isPrintable
    else bytes
  if k.has 'f' then bytes.map toUpper else bytes

end Key

/-! ## Numbers -/

/-- A sign, whole digits without zeros in front, and decimals without zeros at the end. -/
structure Numeral where
  negative : Bool
  whole : Bytes
  part : Bytes
deriving DecidableEq, Repr

namespace Numeral

/-- The number in front of some bytes, and what comes after it. -/
def read (bytes : Bytes) : Numeral × Bytes :=
  let bytes := bytes.dropWhile Key.isGap
  let negative := bytes.head? = some 0x2D
  let r := if negative then bytes.drop 1 else bytes
  let whole := r.takeWhile isDigit
  let r := r.drop whole.length
  let (part, r) := match r with
    | 0x2E :: r => (r.takeWhile isDigit, r.dropWhile isDigit)
    | r => ([], r)
  let part := (part.reverse.dropWhile (· = 0x30)).reverse
  (⟨negative, whole.dropWhile (· = 0x30), part⟩, r)

def isZero (n : Numeral) : Bool :=
  n.whole = [] && n.part = []

/-- Orders what is behind the signs. -/
def compareSize (m n : Numeral) : Ordering :=
  (compare m.whole.length n.whole.length).then
    ((compare m.whole n.whole).then (compare m.part n.part))

def order (m n : Numeral) : Ordering :=
  let below (n : Numeral) : Bool := n.negative && !n.isZero
  match below m, below n with
  | true, true => compareSize n m
  | true, false => .lt
  | false, true => .gt
  | false, false => compareSize m n

end Numeral

/-- The power that a unit behind a number stands for, with the sign of the number. -/
def unitPower (bytes : Bytes) : Int :=
  let (n, rest) := Numeral.read bytes
  let power := match rest with
    | b :: _ => ((Bytes.ofString "kKMGTPEZYRQ").findIdx? (· = b)).map fun i => max i 1
    | [] => none
  if n.isZero then 0
  else
    let power : Int := ((power.getD 0 : Nat) : Int)
    if n.negative then -power else power

/-- Orders floating numbers: first what is no number, then what is said to be none. -/
def compareGeneral (a b : Bytes) : Ordering :=
  let read (bytes : Bytes) : Option Floating :=
    (Floating.read? .extended (Text.Utf8.lossy bytes)).map (·.1)
  let rank : Option Floating → Nat
    | none => 0
    | some (.nan _) => 1
    | some _ => 2
  let x := read a
  let y := read b
  (compare (rank x) (rank y)).then (match x, y with
    | some x, some y => (x.compare? y).getD .eq
    | _, _ => .eq)

def months : List Bytes :=
  ["JAN", "FEB", "MAR", "APR", "MAY", "JUN", "JUL", "AUG", "SEP", "OCT", "NOV", "DEC"].map
    Bytes.ofString

/-- The number of the month that some bytes begin with. -/
def monthOf (bytes : Bytes) : Nat :=
  let name := ((bytes.dropWhile Key.isGap).take 3).map toUpper
  ((months.findIdx? (· = name)).map (· + 1)).getD 0

/-! ## Versions -/

namespace Version

/-- The place of a byte that is no digit: a tilde comes before everything, even the end, and letters
come before all others. -/
def rank : Bytes → Int
  | [] => -1
  | b :: _ =>
    if isDigit b then 0
    else if isLetter b then b.toNat
    else if b = 0x7E then -2
    else b.toNat + 256

/-- Orders versions: stretches without digits byte by byte, and numbers by their size. The fuel
bounds how far they are compared. -/
def compareParts : Nat → Bytes → Bytes → Ordering
  | 0, _, _ => .eq
  | _, [], [] => .eq
  | fuel + 1, a, b =>
    let isText (bytes : Bytes) : Bool := bytes.head?.any fun b => !isDigit b
    if isText a || isText b then
      (compare (rank a) (rank b)).then (compareParts fuel (a.drop 1) (b.drop 1))
    else
      let m := (a.takeWhile isDigit).dropWhile (· = 0x30)
      let n := (b.takeWhile isDigit).dropWhile (· = 0x30)
      ((compare m.length n.length).then (compare m n)).then
        (compareParts fuel (a.dropWhile isDigit) (b.dropWhile isDigit))

/-- Is a name made of a dot and what may follow it in an ending? -/
def isEnding : Bytes → Bool
  | 0x2E :: b :: rest =>
    (isLetter b || b = 0x7E) && rest.all fun b => isLetter b || isDigit b || b = 0x7E
  | _ => false

/-- The parts of a name from its dots on, the last one first; the first part has none. -/
def dotParts (bytes : Bytes) : List Bytes :=
  (bytes.foldl (fun (acc : List Bytes) b =>
    if b = 0x2E then [b] :: acc
    else
      match acc with
      | part :: rest => (b :: part) :: rest
      | [] => [[b]]) [[]]).map List.reverse

/-- A name without its endings; something of it always stays. -/
def withoutEndings (bytes : Bytes) : Bytes :=
  let first := bytes.take 1
  let kept := ((dotParts (bytes.drop 1)).dropWhile isEnding).reverse.flatten
  first ++ kept

def order (a b : Bytes) : Ordering :=
  let dot : Bytes := [0x2E]
  let rank (bytes : Bytes) : Nat :=
    if bytes = [] then 0
    else if bytes = dot then 1
    else if bytes = dot ++ dot then 2
    else if bytes.head? = some 0x2E then 3
    else 4
  let fuel := a.length + b.length + 1
  (compare (rank a) (rank b)).then
    (if rank a < 3 then .eq
    else (compareParts fuel (withoutEndings a) (withoutEndings b)).then (compareParts fuel a b))

end Version

namespace Key

/-- Orders two lines by a key. -/
def order (k : Key) (tab : Option UInt8) (a b : Bytes) : Ordering :=
  let x := k.extract tab a
  let y := k.extract tab b
  let found :=
    if k.has 'n' then (Numeral.read x).1.order (Numeral.read y).1
    else if k.has 'g' then compareGeneral x y
    else if k.has 'h' then
      (compare (unitPower x) (unitPower y)).then ((Numeral.read x).1.order (Numeral.read y).1)
    else if k.has 'M' then compare (monthOf x) (monthOf y)
    else if k.has 'V' then Version.order x y
    else compare x y
  if k.has 'r' then found.swap else found

/-! ## Reading keys -/

/-- What is wrong with a key. -/
inductive Fault
  | noCount (place rest : String)
  | bad (what spec : String)

def Fault.message : Fault → String
  | .noCount place rest => place ++ ": invalid count at start of " ++ Quoting.value rest
  | .bad what spec => what ++ ": invalid field specification " ++ Quoting.value spec

def countOf (place : String) (cs : List Char) : Except Fault (Nat × List Char) :=
  let digits := cs.takeWhile Char.isDigit
  match decimal? digits with
  | some n => .ok (n, cs.drop digits.length)
  | none => .error (.noCount place (String.ofList cs))

/-- The letters of all rules. -/
def rules : List Char := ['b', 'd', 'f', 'g', 'h', 'i', 'M', 'n', 'r', 'R', 'V']

/-- A key with some letters more; blanks are not left out by a letter alone. -/
def withLetters (k : Key) (letters : List Char) : Key :=
  let letters := letters.filter (· ≠ 'b')
  { k with letters := k.letters ++ letters.filter fun c => !k.letters.contains c }

def ofString (spec : String) : Except Fault Key := do
  let (field, r) ← countOf "invalid number at field start" spec.toList
  if field = 0 then throw (.bad "field number is zero" spec)
  let (char, r) ← match r with
    | '.' :: r => do
      let (n, r) ← countOf "invalid number after '.'" r
      if n = 0 then throw (.bad "character offset is zero" spec)
      pure (n - 1, r)
    | r => pure (0, r)
  let before := r.takeWhile rules.contains
  let r := r.drop before.length
  let k := { whole with
    field := field - 1, char, skipsBefore := before.contains 'b' }.withLetters before
  match r with
  | ',' :: r => do
    let (last, r) ← countOf "invalid number after ','" r
    if last = 0 then throw (.bad "field number is zero" spec)
    let (n, r) ← match r with
      | '.' :: r => countOf "invalid number after '.'" r
      | r => pure (0, r)
    let after := r.takeWhile rules.contains
    if r.length ≠ after.length then throw (.bad "stray character in field spec" spec)
    return { k with last := some (last - 1, n), skipsWithin := after.contains 'b' }.withLetters after
  | [] => return k
  | _ => throw (.bad "stray character in field spec" spec)

/-- The letters of rules that do not go together, if there are any. -/
def conflict? (k : Key) : Option String :=
  let has (c : Char) : Nat := if k.has c then 1 else 0
  let rest := if k.has 'V' || k.has 'R' || k.has 'd' || k.has 'i' then 1 else 0
  if 1 < has 'n' + has 'g' + has 'h' + has 'M' + rest then
    let shown := ['d', 'f', 'g', 'h', 'i', 'M', 'n', 'R', 'V'].filter fun c =>
      k.has c && !(c = 'i' && k.has 'd')
    some (String.ofList shown)
  else none

end Key
end Scratchpad.Shell.Tools
