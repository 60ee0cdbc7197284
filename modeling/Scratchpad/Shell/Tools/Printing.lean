import Scratchpad.Shell.Format
import Scratchpad.Shell.Tools.Basic

/-!
# Tools that only write

The tools that write their arguments, count, wait, or do nothing.
-/

namespace Scratchpad.Shell.Tools

open Deed (complaint ofWrites saying told waiting)

/-- Writes its arguments, with escapes if asked. -/
def echo (s : Scene) : Deed :=
  let isOption (arg : String) : Bool :=
    match arg.toList with
    | '-' :: c :: cs => (c :: cs).all ['n', 'e', 'E'].contains
    | _ => false
  let options := s.args.takeWhile isOption
  let words := " ".intercalate (s.args.drop options.length)
  let marks := options.flatMap String.toList
  let escapes := (marks.filter (· ≠ 'n')).reverse.find? (· ≠ '-') = some 'e'
  let (bytes, stopped) :=
    if escapes then
      let text := ByteText.ofString words
      Format.unescape .broad (text.length + 1) [] text
    else (Bytes.ofString words, false)
  ofWrites s [(.out, if stopped || marks.contains 'n' then bytes else bytes ++ [newline])] 0

/-- Writes its arguments as a format says. -/
def printf (s : Scene) : Deed :=
  match (if s.args.head? = some "--" then s.args.tail else s.args) with
  | [] => missingOperand s "printf"
  | format :: args =>
    let (bytes, texts, code) := Format.run .broad (ByteText.ofString format) (args.map ByteText.ofString)
    ofWrites s ((.out, bytes) :: texts.map fun text => told ("printf: " ++ text)) code

def succeed (s : Scene) : Deed := ofWrites s [] 0

def fail (s : Scene) : Deed := ofWrites s [] 1

/-- Waits for the sum of its arguments. -/
def sleep (s : Scene) : Deed :=
  reading s "sleep" 1 [] fun _ times =>
    if times.isEmpty then missingOperand s "sleep"
    else
      match times.filter fun arg => (span? arg).isNone with
      | [] =>
        (times.filterMap span?).foldl (fun (d : Deed) span =>
          match span with
          | .lasts ms => { d with lastsMs := d.lastsMs + ms }
          | .endless => { d with code := none }) (succeed s)
      | wrong =>
        let lines := wrong.map fun arg => "sleep: invalid time interval " ++ Quoting.value arg
        complaint s ("\n".intercalate lines ++
          "\nTry 'sleep --help' for more information.") 1

/-- Writes a line for ever. -/
def yes (s : Scene) : Deed :=
  readingFirst s "yes" 1 [] fun _ words =>
    let line := if words.isEmpty then "y" else " ".intercalate words
    { ofWrites s [] 0 with onward := Bytes.ofString (line ++ "\n"), code := none }

/-! ## Counting -/

/-- A number that one counts with: `digits` in units of the last of its `places`, and how wide it is
when written. -/
structure Step where
  digits : Int
  places : Nat
  width : Nat

namespace Step

/-- The digits in units of some place, not before the number's own last one. -/
def atPlace (n : Step) (places : Nat) : Int :=
  n.digits * (Nat.pow 10 (places - n.places) : Nat)

def one : Step := ⟨1, 0, 1⟩

/-- Reads a whole number in hexadecimal. -/
def ofHexadecimal? (text : String) : Option Step :=
  match text.toList with
  | '0' :: x :: digits =>
    if (x = 'x' || x = 'X') && digits ≠ [] && digits.all fun c => (Text.hexValue? c).isSome then
      some ⟨Format.hex digits, 0, text.length⟩
    else none
  | _ => none

/-- Reads a decimal numeral. -/
def ofDecimal? (text : String) : Option Step :=
  let cs := text.toList.dropWhile Floating.isSpace
  let (negative, r) := match cs with
    | '-' :: r => (true, r)
    | '+' :: r => (false, r)
    | r => (false, r)
  let whole := r.takeWhile Char.isDigit
  let r := r.drop whole.length
  let part := match r with
    | '.' :: r => r.takeWhile Char.isDigit
    | _ => []
  let hasPoint := r.head? = some '.'
  let r := if hasPoint then r.drop (1 + part.length) else r
  let (e, rest) := Floating.exponentAfter ['e', 'E'] r
  if whole ++ part = [] ∨ rest ≠ [] ∨ 400 < e.natAbs then none
  else
    let n : Nat := (decimal? (whole ++ part)).getD 0
    let n : Int := if negative then -(n : Int) else n
    let shift : Int := part.length - e
    let digits := if shift < 0 then n * (Nat.pow 10 (-shift).toNat : Nat) else n
    let places := shift.toNat
    let lead := cs.length - (whole.length + (if hasPoint then 1 + part.length else 0) + r.length)
    let shown := lead + max whole.length 1 + (if part = [] then 0 else 1 + part.length)
    let width : Nat := if e < 0 then
        (shown + e.natAbs : Nat) + (if part = [] then 1 else 0)
      else shown + (e.natAbs - min e.natAbs part.length) -
        (if part ≠ [] ∧ places = 0 ∧ 0 < e then 1 else 0)
    some ⟨digits, places, width⟩

def ofString? (text : String) : Option Step :=
  (ofHexadecimal? text).or (ofDecimal? text)

/-- Does a text name what no count gets to? -/
def isInfinite (text : String) : Bool :=
  ["inf", "+inf", "infinity", "+infinity"].contains text.toLower

def isNotNumber (text : String) : Bool :=
  ["nan", "+nan", "-nan"].contains text.toLower

end Step

/-- How many numbers are written in place of all when there are too many. -/
def mostNumbers : Nat := 50000

/-- All numbers from the first to the last one, in units of the same place. -/
def counted (first step last : Int) : List Int :=
  let n := if 0 < step then (last - first) / step else (first - last) / (-step)
  if n < 0 then [] else (List.range (n.toNat + 1)).map fun (i : Nat) => first + step * (i : Int)

/-- A number in units of some place. -/
def showPlaces (places width : Nat) (n : Int) : List Char :=
  let cs := Notation.pointed places n.natAbs false
  let sign := if n < 0 then ['-'] else []
  sign ++ List.replicate (width - cs.length - sign.length) '0' ++ cs

/-- A format for one floating number: the text before it, how it is written, and the text after. -/
structure NumberFormat where
  before : List Char
  layout : Format.Layout
  letter : Char
  after : List Char

/-- The text up to the first directive, in which a doubled percent sign stands for one. -/
def plainPart : List Char → List Char × List Char
  | '%' :: '%' :: r => let (text, rest) := plainPart r; ('%' :: text, rest)
  | '%' :: r => ([], '%' :: r)
  | c :: r => let (text, rest) := plainPart r; (c :: text, rest)
  | [] => ([], [])

def NumberFormat.ofString (text : String) : Except String NumberFormat :=
  let shown := "format " ++ Quoting.value text
  let (before, r) := plainPart text.toList
  match r with
  | [] => .error (shown ++ " has no % directive")
  | _ :: r =>
    let p : Format.Progress := ⟨[], [], false, false, false, []⟩
    let (layout, _, _, r) := Format.layout .broad p r
    match r.dropWhile (· = 'L') with
    | [] => .error (shown ++ " ends in %")
    | letter :: r =>
      if ! ['a', 'e', 'f', 'g', 'A', 'E', 'F', 'G'].contains letter then
        .error (shown ++ " has unknown %" ++ String.singleton letter ++ " directive")
      else
        match plainPart r with
        | (after, []) => .ok ⟨before, layout, letter, after⟩
        | _ => .error (shown ++ " has too many % directives")

def NumberFormat.write (f : NumberFormat) (n : Int) (places : Nat) : Bytes :=
  let x := Floating.ofRatio .extended n (Nat.pow 10 places)
  Text.Utf8.encode f.before ++ (Format.floating? f.layout 64 f.letter x).getD [] ++
    Text.Utf8.encode f.after

/-- Ends the options in front of the first negative number. -/
def guardNumbers : List String → List String
  | [] => []
  | arg :: rest =>
    match arg.toList with
    | ['-', '-'] => arg :: rest
    | ['-', 's'] | ['-', 'f'] => arg :: rest.take 1 ++ guardNumbers (rest.drop 1)
    | '-' :: c :: _ =>
      if c.isDigit || c = '.' then "--" :: arg :: rest else arg :: guardNumbers rest
    | _ => arg :: rest
termination_by args => args.length
decreasing_by all_goals simp only [List.length_drop, List.length_cons]; omega

/-- Counts from one number to another. -/
def seq (s : Scene) : Deed :=
  readingFirst { s with args := guardNumbers s.args } "seq" 1
    [.valued 'f' "format", .valued 's' "separator", .flag 'w' "equal-width"] fun found operands =>
    let endless := (operands.getLast?).any Step.isInfinite
    let numerals := if endless then operands.dropLast else operands
    let wrong := numerals.find? fun arg => (Step.ofString? arg).isNone
    let separator := Bytes.ofString ((found.value? "separator").getD "\n")
    let write (first step : Step) (last? : Option Step) : Deed :=
      if step.digits = 0 then
        complaint s (hint "seq" ("invalid Zero increment value: " ++
          Quoting.value (operands.getD 1 ""))) 1
      else
        let places := max first.places step.places
        let last := last?.getD ⟨first.atPlace places + step.atPlace places * mostNumbers, places, 1⟩
        let fine := max places last.places
        let unit : Nat := Nat.pow 10 (fine - places)
        let numbers := (counted (first.atPlace fine) (step.atPlace fine) (last.atPlace fine)).map
          fun (n : Int) => n / (unit : Int)
        let firstWidth := first.width + (places - first.places) +
          (if first.places = 0 ∧ 0 < places then 1 else 0)
        let lastWidth := last.width + places - last.places -
          (if 0 < last.places ∧ places = 0 then 1 else 0) +
          (if last.places = 0 ∧ 0 < places then 1 else 0)
        let width := if found.has "equal-width" then max firstWidth lastWidth else 0
        let answer (lines : List Bytes) : Deed :=
          let bytes := if lines = [] then [] else separator.intercalate lines ++ [newline]
          let d := ofWrites s [(.out, bytes)] 0
          if last?.isSome then d
          else { d with onward := lines.getLastD [] ++ separator, code := none }
        match found.value? "format" with
        | none => answer (numbers.map fun n => Text.Utf8.encode (showPlaces places width n))
        | some text =>
          if found.has "equal-width" then
            complaint s (hint "seq"
              "format string may not be specified when printing equal width strings") 1
          else
            match NumberFormat.ofString text with
            | .error text => complaint s ("seq: " ++ text) 1
            | .ok f => answer (numbers.map fun n => f.write n places)
    match operands, wrong with
    | [], _ => missingOperand s "seq"
    | _ :: _ :: _ :: extra :: _, _ => extraOperand s "seq" extra
    | _, some arg =>
      let kind := if Step.isNotNumber arg then "'not-a-number'" else "floating point"
      complaint s (hint "seq" ("invalid " ++ kind ++ " argument: " ++ Quoting.value arg)) 1
    | _, none =>
      match numerals.filterMap Step.ofString?, endless with
      | [], _ => write .one .one none
      | [first], true => write first .one none
      | [first, step], true => write first step none
      | [last], false => write .one .one (some last)
      | [first, last], false => write first .one (some last)
      | [first, step, last], false => write first step (some last)
      | _, _ => missingOperand s "seq"

end Scratchpad.Shell.Tools
