import Scratchpad.Decimal.Notation
import Scratchpad.Shell.Arithmetic
import Scratchpad.Shell.ByteText
import Scratchpad.Shell.Quoting

/-!
# Formatted text

A format is text with escapes, which start with a backslash, and directives, which start with a
percent sign and take an argument. A format that takes arguments is used again until all are taken;
arguments that are missing read as empty. Formats and arguments are texts of bytes.
-/

namespace Scratchpad.Shell.Format

/-- Why an argument is not the number that a directive asks for. -/
inductive Misfit
  | none
  | rest
  | range

/-- What tells one dialect of formats from another: a wide one has escapes for hexadecimal codes and
quotes; a strict one lets an escape end a format, minds which flags go with a letter, wants digits
behind an escape that needs them, and warns of arguments that a format has no use for. A directive may
be bad because of its letter, or because it has none. Where there is a clock, a directive may show times,
which are the one that it is now for -1 and the one at which everything started for -2. -/
structure Dialect where
  wide : Bool
  strict : Bool
  quote : List Char → Bytes
  precision : Precision
  badNumber : List Char → Misfit → String
  badDirective : List Char → Bool → String
  missingDigits : Char → String
  clock : Option (Int → String → String) := none

def Dialect.narrow : Dialect where
  wide := false
  strict := false
  quote := ByteText.toBytes
  precision := .double
  badNumber arg
    | .none => ByteText.shown arg ++ ": expected numeric value"
    | .rest => ByteText.shown arg ++ ": not completely converted"
    | .range => ByteText.shown arg ++ ": Numerical result out of range"
  badDirective text ended :=
    if ended then "missing format character"
    else "%" ++ ByteText.shown text ++ ": invalid directive"
  missingDigits _ := ""

def Dialect.broad : Dialect where
  wide := true
  strict := true
  quote arg := Bytes.ofString (Quoting.name (ByteText.shown arg))
  precision := .extended
  badNumber arg
    | .none => Quoting.value (ByteText.shown arg) ++ ": expected a numeric value"
    | .rest => Quoting.value (ByteText.shown arg) ++ ": value not completely converted"
    | .range => Quoting.value (ByteText.shown arg) ++ ": Numerical result out of range"
  badDirective text _ := "%" ++ ByteText.shown text ++ ": invalid conversion specification"
  missingDigits _ := "missing hexadecimal number in escape"

/-- The letters that say how wide a number is. -/
def sizeLetters : List Char := ['h', 'l', 'L', 'j', 't', 'z']

/-- The dialect of formats that goes with the rich dialect of scripts. -/
def Dialect.rich (quote : List Char → Bytes) (clock : Int → String → String) : Dialect where
  clock := some clock
  wide := true
  strict := false
  quote
  precision := .extended
  badNumber arg
    | .range => "warning: " ++ ByteText.shown arg ++ ": Numerical result out of range"
    | _ =>
      ByteText.shown arg ++ (match arg with
        | '0' :: 'x' :: _ | '0' :: 'X' :: _ => ": invalid hex number"
        | '0' :: _ :: _ => ": invalid octal number"
        | _ => ": invalid number")
  badDirective text ended :=
    if ended then "`%" ++ ByteText.shown text ++ "': missing format character"
    else "`" ++ ByteText.shown (text.drop (text.length - 1)) ++ "': invalid format character"
  missingDigits c :=
    "missing " ++ (if c = 'x' then "hex" else "unicode") ++ " digit for \\" ++ String.singleton c

def isOctal (c : Char) : Bool :=
  '0' ≤ c && c ≤ '7'

def octal (cs : List Char) : Nat :=
  cs.foldl (fun n c => n * 8 + (c.toNat - '0'.toNat)) 0

def hex (cs : List Char) : Nat :=
  cs.foldl (fun n c => n * 16 + (Text.hexValue? c).getD 0) 0

def byte (n : Nat) : Bytes :=
  [UInt8.ofNat (n % 256)]

/-- The escape after a backslash and the rest, or `none` if the output ends here. With `zero`, as in
an argument, an octal escape has a zero in front that is no digit of it. -/
def escape (d : Dialect) (zero : Bool) (cs : List Char) : Option (Bytes × List Char) :=
  match cs with
  | [] => some ([0x5C], [])
  | 'a' :: r => some ([7], r)
  | 'b' :: r => some ([8], r)
  | 'c' :: r => if zero || d.strict then none else some (ByteText.toBytes ['\\', 'c'], r)
  | 'e' :: r => some ([27], r)
  | 'E' :: r => if d.wide && !d.strict then some ([27], r) else some ([0x5C, 0x45], r)
  | 'f' :: r => some ([12], r)
  | 'n' :: r => some ([10], r)
  | 'r' :: r => some ([13], r)
  | 't' :: r => some ([9], r)
  | 'v' :: r => some ([11], r)
  | '\\' :: r => some ([0x5C], r)
  | '"' :: r => some (if d.wide then [0x22] else [0x5C, 0x22], r)
  | '\'' :: r | '?' :: r =>
    if d.wide && !d.strict && !zero then some (ByteText.toBytes (cs.take 1), r)
    else some (ByteText.toBytes ('\\' :: cs.take 1), r)
  | 'x' :: r =>
    let digits := (r.take 2).takeWhile fun c => (Text.hexValue? c).isSome
    if d.wide && !digits.isEmpty then some (byte (hex digits), r.drop digits.length)
    else some (ByteText.toBytes ['\\', 'x'], r)
  | c :: r =>
    if isOctal c then
      let start := if zero && c = '0' then r else c :: r
      let digits := (start.take 3).takeWhile isOctal
      some (byte (octal digits), start.drop digits.length)
    else some (ByteText.toBytes ['\\', c], r)

/-- The character of a code that is written in hexadecimal digits. -/
def codePoint? (size : Nat) (cs : List Char) : Option (Bytes × List Char) :=
  let digits := cs.take size
  if digits.length = size && digits.all fun c => (Text.hexValue? c).isSome then
    let n := hex digits
    let padded := List.replicate (size - digits.length) '0' ++ digits
    some (if n < 128 then byte n
      else ByteText.toBytes ('\\' :: (if size = 4 then 'u' else 'U') :: padded.map Char.toUpper),
      cs.drop size)
  else none

/-- What an escape comes to: the end of the output, bytes and the rest, or a letter behind which digits
are missing. -/
inductive Escape
  | finish
  | bytes (bytes : Bytes) (rest : List Char)
  | lacking (letter : Char)

/-- The escape after a backslash, among which there are codes of characters in a wide dialect. -/
def escapeOf (d : Dialect) (zero : Bool) (cs : List Char) : Escape :=
  let codeOf (letter : Char) (size : Nat) (r : List Char) : Escape :=
    let found :=
      if d.strict then codePoint? size r
      else (ByteText.numberIn 16 size r).map fun (n, r) => (ByteText.toBytes (ByteText.ofCode n), r)
    match found with
    | some (bytes, r) => .bytes bytes r
    | none => .lacking letter
  let usual : Escape := match escape d zero cs with
    | some (bytes, r) => .bytes bytes r
    | none => .finish
  if !d.wide then usual
  else
    match cs with
    | 'u' :: r => codeOf 'u' 4 r
    | 'U' :: r => codeOf 'U' 8 r
    | 'x' :: r => if (r.head?.bind Text.hexValue?).isNone then .lacking 'x' else usual
    | _ => usual

/-- A text with its escapes replaced, and whether it ends the output. -/
def unescape (d : Dialect) : Nat → Bytes → List Char → Bytes × Bool
  | 0, acc, _ => (acc.reverse, false)
  | _, acc, [] => (acc.reverse, false)
  | fuel + 1, acc, '\\' :: r =>
    match escape d true r with
    | none => (acc.reverse, true)
    | some (bytes, r) => unescape d fuel (bytes.reverse ++ acc) r
  | fuel + 1, acc, c :: r =>
    unescape d fuel (UInt8.ofNat c.toNat :: acc) r

/-- The same for an argument of a format, and the letters behind which digits are missing. -/
def unescapeArgument (d : Dialect) : Nat → Bytes → List Char → List Char → Bytes × Bool × List Char
  | 0, acc, lacks, _ => (acc.reverse, false, lacks.reverse)
  | _, acc, lacks, [] => (acc.reverse, false, lacks.reverse)
  | fuel + 1, acc, lacks, '\\' :: r =>
    match escapeOf d true r with
    | .finish => (acc.reverse, true, lacks.reverse)
    | .lacking c =>
      if d.strict then (acc.reverse, true, (c :: lacks).reverse)
      else
        unescapeArgument d fuel ((ByteText.toBytes ['\\', c]).reverse ++ acc) (c :: lacks) (r.drop 1)
    | .bytes bytes r => unescapeArgument d fuel (bytes.reverse ++ acc) lacks r
  | fuel + 1, acc, lacks, c :: r =>
    unescapeArgument d fuel (UInt8.ofNat c.toNat :: acc) lacks r

/-- How a directive lays out its argument. -/
structure Layout where
  left : Bool
  zeros : Bool
  plus : Bool
  space : Bool
  marked : Bool
  grouped : Bool
  width : Nat
  precision : Option Nat

def Layout.plain : Layout := ⟨false, false, false, false, false, false, 0, none⟩

def Layout.flag (l : Layout) : Char → Option Layout
  | '-' => some { l with left := true }
  | '0' => some { l with zeros := true }
  | '+' => some { l with plus := true }
  | ' ' => some { l with space := true }
  | '#' => some { l with marked := true }
  | _ => none

def flags (d : Dialect) (l : Layout) : List Char → Layout × List Char
  | [] => (l, [])
  | c :: r =>
    match l.flag c with
    | some l => flags d l r
    | none => if d.wide && c = '\'' then flags d { l with grouped := true } r else (l, c :: r)

/-- Fills a field up to its width. -/
def pad (l : Layout) (fill : UInt8) (lead body : Bytes) : Bytes :=
  let missing := List.replicate (l.width - lead.length - body.length)
  if l.left then lead ++ body ++ missing 0x20
  else if fill = 0x20 then missing fill ++ lead ++ body
  else lead ++ missing fill ++ body

def textField (l : Layout) (bytes : Bytes) : Bytes :=
  pad l 0x20 [] (bytes.take (l.precision.getD bytes.length))

/-- A number with a sign or a mark in front of its digits. -/
def numberField (l : Layout) (lead digits : List Char) : Bytes :=
  let digits := if digits = ['0'] ∧ l.precision = some 0 then [] else digits
  let digits := List.replicate (l.precision.getD 1 - digits.length) '0' ++ digits
  pad l (if l.zeros && l.precision.isNone then 0x30 else 0x20) (ByteText.toBytes lead)
    (ByteText.toBytes digits)

/-- The code of the character behind a quote in front; a strict dialect wants that there is one. -/
def code? (d : Dialect) (arg : List Char) : Option Nat :=
  match arg.dropWhile Floating.isSpace with
  | '\'' :: r | '"' :: r =>
    match ByteText.toBytes r with
    | b :: _ => some b.toNat
    | [] => if d.strict then none else some 0
  | _ => none

/-- The number that an argument stands for, which may be the code of a quoted character. It is to
lie between two bounds. -/
def value (d : Dialect) (low high : Int) (arg : List Char) : Int × Option Misfit :=
  match code? d arg, arg.dropWhile Floating.isSpace with
  | some n, _ => (n, none)
  | none, cs =>
    let (negative, r) := match cs with
      | '-' :: r => (true, r)
      | '+' :: r => (false, r)
      | r => (false, r)
    let (base, r) := Arithmetic.radix r
    let digits := Arithmetic.digitsOf base r
    let n : Int := Arithmetic.valueOf base digits
    let n := if negative then -n else n
    let bounded := if n < low then low else if high < n then high else n
    (bounded,
      if digits = [] then (if arg = [] then none else some .none)
      else if digits.length < r.length then some .rest
      else if bounded = n then none
      else some .range)

/-- The largest number of 64 bits. -/
def most64 : Int := 18446744073709551615

/-- A whole number as a directive with some letter writes it. -/
def numeral? (d : Dialect) (l : Layout) (letter : Char) (arg : List Char) : Option (Bytes × Option Misfit) :=
  let signed : Bytes × Option Misfit :=
    let (n, misfit) := value d (-9223372036854775808) 9223372036854775807 arg
    let sign : List Char :=
      if n < 0 then ['-'] else if l.plus then ['+'] else if l.space then [' '] else []
    (numberField l sign (Nat.toDigits 10 n.natAbs), misfit)
  let unsigned (base : Nat) (lead : List Char) : Bytes × Option Misfit :=
    let (n, misfit) := value d (-most64) most64 arg
    let n := (n % (most64 + 1)).toNat
    let digits := Nat.toDigits base n
    let digits := if l.marked && base = 8 && n ≠ 0 then '0' :: digits else digits
    (numberField l (if l.marked && n ≠ 0 then lead else []) digits, misfit)
  match letter with
  | 'd' | 'i' => some signed
  | 'u' => some (unsigned 10 [])
  | 'o' => some (unsigned 8 [])
  | 'x' => some (unsigned 16 ['0', 'x'])
  | 'X' =>
    let (bytes, misfit) := unsigned 16 ['0', 'X']
    some (bytes.map fun b => if 0x61 ≤ b && b ≤ 0x66 then b - 0x20 else b, misfit)
  | _ => none

/-- A floating number as a directive with some letter writes it. -/
def floating? (l : Layout) (bits : Nat) (letter : Char) (x : Floating) : Option Bytes :=
  let places := l.precision.getD 6
  let write? : Option (Dyadic → List Char) :=
    match letter.toLower with
    | 'f' => some (Notation.fixed places l.marked)
    | 'e' => some (Notation.scientific places l.marked)
    | 'g' => some (Notation.general places l.marked)
    | 'a' => some (Notation.hexadecimal bits l.precision l.marked)
    | _ => none
  write?.map fun write =>
    let sign : List Char :=
      if x.isNegative then ['-'] else if l.plus then ['+'] else if l.space then [' '] else []
    let up (cs : List Char) : List Char := if letter.isUpper then cs.map Char.toUpper else cs
    let field (zeros : Bool) (lead cs : List Char) : Bytes :=
      pad l (if zeros then 0x30 else 0x20) (ByteText.toBytes (up lead)) (ByteText.toBytes (up cs))
    match x with
    | .infinite _ => field false sign ['i', 'n', 'f']
    | .nan _ => field false sign ['n', 'a', 'n']
    | .finite _ x =>
      match write x with
      | '0' :: 'x' :: cs => field l.zeros (sign ++ ['0', 'x']) cs
      | cs => field l.zeros sign cs

/-- The floating number that an argument stands for. -/
def floatingValue (d : Dialect) (arg : List Char) : Floating × Option Misfit :=
  match (if arg.head?.any Floating.isSpace then none else code? d arg) with
  | some n => (.ofInt d.precision (n : Nat), none)
  | none =>
    match Floating.read? d.precision arg with
    | none => (.zero, if arg = [] then none else some .none)
    | some (x, rest) =>
      let isWord := arg.any fun c => c.toLower = 'f'
      (x, if rest ≠ [] then some .rest
        else match x with
          | .infinite _ => if isWord then none else some .range
          | _ => none)

/-- What has been written, the arguments that are left, and what was found wrong. -/
structure Progress where
  out : Bytes
  args : List (List Char)
  took : Bool
  stopped : Bool
  faulty : Bool
  complaints : List String

def Progress.write (p : Progress) (bytes : Bytes) : Progress :=
  { p with out := bytes.reverse ++ p.out }

def Progress.next (p : Progress) : List Char × Progress :=
  (p.args.headD [], { p with args := p.args.tail, took := true })

def Progress.warn (p : Progress) (text : String) : Progress :=
  { p with complaints := text :: p.complaints }

def Progress.complain (p : Progress) (text : String) : Progress :=
  { p.warn text with faulty := true }

def Progress.stop (p : Progress) (text : String) : Progress :=
  { p.complain text with stopped := true }

/-- Complains of an argument if it was no number. -/
def Progress.check (d : Dialect) (p : Progress) (arg : List Char) (misfit : Option Misfit) :
    Progress :=
  match misfit with
  | some .range =>
    let said := d.badNumber arg .range
    if d.wide && !d.strict then p.warn said else p.complain said
  | some m => p.complain (d.badNumber arg m)
  | none =>
    match arg with
    | '\'' :: _ :: c :: r | '"' :: _ :: c :: r =>
      if d.strict then
        p.warn ("warning: " ++ Quoting.value (ByteText.shown (c :: r)) ++
          ": character(s) following character constant have been ignored")
      else p
    | _ => p

def digitsOf (cs : List Char) : Nat × List Char :=
  let digits := cs.takeWhile Char.isDigit
  (digits.foldl (fun n c => n * 10 + (c.toNat - '0'.toNat)) 0, cs.drop digits.length)

/-- Widths and precisions are words of 32 bits. -/
def mostExtent : Nat := 2147483647

/-- No field is wider than there is room for. -/
def room : Nat := 16777216

/-- A layout with a width, which is one to the left if it is negative. -/
def Layout.ofWidth (l : Layout) (width : Int) : Layout :=
  { l with width := min width.natAbs room, left := l.left || width < 0 }

/-- A layout with a precision, which does not count if it is negative. -/
def Layout.ofPrecision (l : Layout) (precision : Int) : Layout :=
  { l with precision := if precision < 0 then none else some (min precision.toNat room) }

/-- A width or a precision: digits, or a star for the next argument. -/
def extent (d : Dialect) (p : Progress) (what : String) (cs : List Char) :
    Int × Progress × List Char :=
  match cs with
  | '*' :: r =>
    let (arg, p) := p.next
    if d.strict then
      let (n, misfit) := value d (-(2 * mostExtent : Nat)) (2 * mostExtent : Nat) arg
      if n.natAbs ≤ mostExtent then (n, p.check d arg misfit, r)
      else (0, p.stop ("invalid " ++ what ++ ": " ++ Quoting.value (ByteText.shown arg)), r)
    else if d.wide then
      let (n, misfit) := value d (-(mostExtent + 1 : Nat)) mostExtent arg
      (n, p.check d arg misfit, r)
    else
      let (n, misfit) := value d (-9223372036854775808) 9223372036854775807 arg
      (Int.bmod n 4294967296, p.check d arg misfit, r)
  | cs =>
    let (n, r) := digitsOf cs
    (n, p, r)

/-- A directive after its percent sign, up to its letter, and whether its field is too wide for any
machine. -/
def layout (d : Dialect) (p : Progress) (cs : List Char) : Layout × Bool × Progress × List Char :=
  let (l, r) := flags d .plain cs
  let (width, p, r) := extent d p "field width" r
  let l := l.ofWidth width
  match r with
  | '.' :: r =>
    let (precision, p, r) := extent d p "precision" r
    (l.ofPrecision precision, mostExtent < width || mostExtent < precision, p, r)
  | r => (l, mostExtent < width, p, r)

/-- Does a letter go with the flags in front of it? -/
def Layout.suits (l : Layout) (letter : Char) : Bool :=
  !(l.marked && ['c', 'd', 'i', 's', 'u'].contains letter) &&
  !(l.zeros && ['c', 's'].contains letter) &&
  !(l.grouped && ['a', 'A', 'c', 'e', 'E', 'o', 's', 'x', 'X'].contains letter) &&
  !(l.precision.isSome && letter = 'c')

/-- What is left after the letters that say how wide a number is. -/
def afterSize (d : Dialect) (cs : List Char) : List Char :=
  if d.wide then cs.dropWhile sizeLetters.contains else cs

/-- The text up to the parenthesis that closes, and what is behind it. -/
def enclosed : Nat → List Char → List Char → List Char × List Char
  | _, acc, [] => (acc.reverse, [])
  | depth, acc, c :: r =>
    if c = ')' && depth = 0 then (acc.reverse, r)
    else enclosed (if c = '(' then depth + 1 else if c = ')' then depth - 1 else depth) (c :: acc) r

def directive (d : Dialect) (p : Progress) (cs : List Char) : Progress × List Char :=
  let fails (p : Progress) (rest : List Char) : Progress × List Char :=
    (p.stop (d.badDirective (cs.take (cs.length - rest.length)) false), rest)
  match cs with
  | '%' :: r => (p.write [0x25], r)
  | cs =>
    let (l, isEndless, p, r) := layout d p cs
    match afterSize d r with
    | [] => (p.stop (d.badDirective cs true), [])
    | letter :: rest =>
      if p.stopped then (p, rest)
      else if letter = '(' && d.clock.isSome then
        let (form, after) := enclosed 0 [] rest
        match after with
        | 'T' :: after =>
          let (arg, p) := if p.args.isEmpty then (['-', '1'], p) else p.next
          let (n, misfit) := value d (-9223372036854775808) 9223372036854775807 arg
          let form := if form = [] then ['%', 'X'] else form
          let shown := match d.clock with
            | some clock => clock n (ByteText.shown form)
            | none => ""
          ((p.write (textField l (Bytes.ofString shown))).check d arg misfit, after)
        | after =>
          let said := "warning: `" ++ ByteText.shown (after.take 1) ++ "': invalid time format specification"
          ((p.warn said).write [0x25], cs)
      else if d.strict && !l.suits letter then fails p rest
      else if isEndless then
        if d.strict then (p.stop "write error", rest)
        else if d.wide then (p.next.2, rest)
        else (p.next.2.stop "xvsnprintf failed", rest)
      else
        let (arg, p) := p.next
        match letter with
        | 's' => (p.write (textField l (ByteText.toBytes arg)), rest)
        | 'c' =>
          (p.write (textField { l with precision := none } (((ByteText.toBytes arg) ++ [0]).take 1)),
            rest)
        | 'b' =>
          if d.strict && cs.head? ≠ some 'b' then fails p rest
          else
            let (bytes, stopped, lacks) := unescapeArgument d (arg.length + 1) [] [] arg
            let p := lacks.foldl (fun (p : Progress) c =>
              if d.strict then p.complain (d.missingDigits c) else p.warn (d.missingDigits c)) p
            ({ p.write (textField l bytes) with stopped }, rest)
        | letter =>
          if d.wide && (cs.head? = some 'q' || (!d.strict && (letter = 'q' || letter = 'Q'))) then
            (p.write (textField l (d.quote arg)), rest)
          else
            match numeral? d l letter arg with
            | some (bytes, misfit) => ((p.write bytes).check d arg misfit, rest)
            | none =>
              let (x, misfit) := floatingValue d arg
              match floating? l d.precision.bits letter x with
              | some bytes => ((p.write bytes).check d arg misfit, rest)
              | none => fails p rest

/-- One pass through a format. -/
def pass (d : Dialect) : Nat → Progress → List Char → Progress
  | 0, p, _ => p
  | _, p, [] => p
  | fuel + 1, p, '\\' :: '%' :: r =>
    let p := p.write [0x5C]
    if d.strict then pass d fuel (p.write [0x25]) r
    else
      let (p, r) := directive d p r
      if p.stopped then p else pass d fuel p r
  | fuel + 1, p, '\\' :: r =>
    match escapeOf d false r with
    | .finish => { p with stopped := true }
    | .lacking c =>
      let said := d.missingDigits c
      if d.strict then p.stop said
      else pass d fuel ((p.warn said).write (ByteText.toBytes ['\\', c])) (r.drop 1)
    | .bytes bytes r => pass d fuel (p.write bytes) r
  | fuel + 1, p, '%' :: r =>
    let (p, r) := directive d p r
    if p.stopped then p else pass d fuel p r
  | fuel + 1, p, c :: r => pass d fuel (p.write [UInt8.ofNat c.toNat]) r

/-- Passes through a format until no argument is left; every pass but the last takes one. -/
def passes (d : Dialect) (format : List Char) : Nat → Progress → Progress
  | 0, p => p
  | fuel + 1, p =>
    let p := pass d (format.length + 1) { p with took := false } format
    if p.args.isEmpty || !p.took || p.stopped then p else passes d format fuel p

/-- The bytes that a format and its arguments give, what is to be said, and the exit code. -/
def run (d : Dialect) (format : List Char) (args : List (List Char)) :
    Bytes × List String × Nat :=
  let p := passes d format (args.length + 1) ⟨[], args, false, false, false, []⟩
  let excess := match p.args with
    | arg :: _ =>
      if d.strict && !p.stopped then
        ["warning: ignoring excess arguments, starting with '" ++ ByteText.shown arg ++ "'"]
      else []
    | [] => []
  let code := if !p.faulty then 0 else if p.stopped && !d.wide then 2 else 1
  (p.out.reverse, p.complaints.reverse ++ excess, code)

end Scratchpad.Shell.Format
