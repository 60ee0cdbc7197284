import Scratchpad.Decimal.Floating
import Scratchpad.Shell.Pattern

/-!
# Expressions

The tool that evaluates an expression of which every argument is a word: a value, an operator or a
parenthesis. All values are texts, which operators on numbers take for whole numbers.
-/

namespace Scratchpad.Shell.Tools

open Deed (complaint ofWrites)

namespace Expression

inductive Fault
  | noInteger
  | divisionByZero
  | unexpected (word : String)
  | missingAfter (word : String)
  | unclosedAfter (word : String)
  | unclosedBefore (word : String)
  | closing
  | pattern (f : Pattern.Fault)

def Fault.message : Fault → String
  | .noInteger => "non-integer argument"
  | .divisionByZero => "division by zero"
  | .unexpected word => "syntax error: unexpected argument " ++ Quoting.value word
  | .missingAfter word => "syntax error: missing argument after " ++ Quoting.value word
  | .unclosedAfter word => "syntax error: expecting ')' after " ++ Quoting.value word
  | .unclosedBefore word => "syntax error: expecting ')' instead of " ++ Quoting.value word
  | .closing => "syntax error: unexpected ')'"
  | .pattern f => f.message

/-- The words that are left, and the one before them. -/
structure Words where
  last : String
  rest : List String

/-- The number that a text is, if it is one. -/
def number? (text : String) : Option Int :=
  match text.toList with
  | '-' :: cs => (decimal? cs).map fun n => -(n : Int)
  | cs => (decimal? cs).map fun n => (n : Int)

/-- Is a text empty, or zero however it is written? -/
def isNull (text : String) : Bool :=
  let cs := text.toList
  let cs := if cs.head? = some '-' && 1 < cs.length then cs.drop 1 else cs
  cs.all (· = '0')

/-- The operators by how tightly they bind, the loosest first. -/
def operators : List (List String) :=
  [["|"], ["&"], ["<", "<=", "=", "==", "!=", ">=", ">"], ["+", "-"], ["*", "/", "%"], [":"]]

/-- What a text has in common with a pattern at its beginning: the text of the first group, or how
long it is when there is no group. -/
def match1 (text pattern : String) : Except Fault String :=
  match Pattern.ofRegex .lenientBasic (Bytes.ofString pattern) with
  | .error f => .error (.pattern f)
  | .ok p =>
    let hasGroup := 0 < p.groupCount
    match p.farthest (.ofText (Bytes.ofString text)) with
    | none => .ok (if hasGroup then "" else "0")
    | some e =>
      .ok (if hasGroup then String.ofList (Text.Utf8.lossy ((e.captured? 1).getD [])) else e.passed.repr)

def arithmetic (operator a b : String) : Except Fault String :=
  match number? a, number? b with
  | some m, some n =>
    match operator with
    | "+" => .ok (toString (m + n))
    | "-" => .ok (toString (m - n))
    | "*" => .ok (toString (m * n))
    | "/" => if n = 0 then .error .divisionByZero else .ok (toString (Int.tdiv m n))
    | _ => if n = 0 then .error .divisionByZero else .ok (toString (Int.tmod m n))
  | _, _ => .error .noInteger

def compared (operator a b : String) : String :=
  let order := match number? a, number? b with
    | some m, some n => compare m n
    | _, _ => compare (Bytes.ofString a) (Bytes.ofString b)
  let holds : Bool := match operator with
    | "<" => order == .lt
    | "<=" => order != .gt
    | "=" | "==" => order == .eq
    | "!=" => order != .eq
    | ">=" => order != .lt
    | _ => order == .gt
  if holds then "1" else "0"

/-- What an operator makes of two values; when it does not count, nothing can go wrong in it. -/
def apply (counts : Bool) (operator a b : String) : Except Fault String :=
  match operator with
  | "|" => .ok (if !isNull a then a else if !isNull b then b else "0")
  | "&" => .ok (if isNull a || isNull b then "0" else a)
  | ":" => if counts then match1 a b else .ok a
  | "+" | "-" | "*" | "/" | "%" => if counts then arithmetic operator a b else .ok a
  | operator => .ok (compared operator a b)

def Words.next (w : Words) : Except Fault (String × Words) :=
  match w.rest with
  | [] => .error (.missingAfter w.last)
  | word :: rest => .ok (word, ⟨word, rest⟩)

/-- The bytes of a text from a position on, so many of them. -/
def substring (text start size : String) : String :=
  match number? start, number? size with
  | some (.ofNat (i + 1)), some (.ofNat n) =>
    String.ofList (Text.Utf8.lossy (((Bytes.ofString text).drop i).take n))
  | _, _ => ""

/-- The position of the first byte of a text that is among some others. -/
def index (text set : String) : String :=
  let set := Bytes.ofString set
  (((Bytes.ofString text).findIdx? set.contains).map fun i => (i + 1).repr).getD "0"

mutual

/-- Evaluates from some level of operators on. The fuel bounds the nesting. -/
def level : Nat → Nat → Bool → Words → Except Fault (String × Words)
  | 0, _, _, w => .error (.missingAfter w.last)
  | fuel + 1, n, counts, w =>
    match operators[n]? with
    | none => operand fuel counts w
    | some operators => do
      let (a, w) ← level fuel (n + 1) counts w
      onward fuel n operators counts a w

/-- Goes on behind a value as long as there are operators of its level. -/
def onward : Nat → Nat → List String → Bool → String → Words → Except Fault (String × Words)
  | 0, _, _, _, _, w => .error (.missingAfter w.last)
  | fuel + 1, n, operators, counts, a, w =>
    match w.rest with
    | operator :: rest =>
      if operators.contains operator then do
        let needed := match operator with
          | "|" => isNull a
          | "&" => !isNull a
          | _ => true
        let (b, w) ← level fuel (n + 1) (counts && needed) ⟨operator, rest⟩
        let value ← apply counts operator a b
        onward fuel n operators counts value w
      else .ok (a, w)
    | [] => .ok (a, w)

/-- A value: a word, an expression in parentheses, or what a named function gives. -/
def operand : Nat → Bool → Words → Except Fault (String × Words)
  | 0, _, w => .error (.missingAfter w.last)
  | fuel + 1, counts, w => do
    let (word, w) ← w.next
    match word with
    | "+" => w.next
    | "length" =>
      let (a, w) ← operand fuel counts w
      return ((Bytes.ofString a).length.repr, w)
    | "match" =>
      let (a, w) ← operand fuel counts w
      let (b, w) ← operand fuel counts w
      if counts then return (← match1 a b, w) else return (a, w)
    | "index" =>
      let (a, w) ← operand fuel counts w
      let (b, w) ← operand fuel counts w
      return (index a b, w)
    | "substr" =>
      let (a, w) ← operand fuel counts w
      let (b, w) ← operand fuel counts w
      let (c, w) ← operand fuel counts w
      return (substring a b c, w)
    | "(" =>
      let (value, w) ← level fuel 0 counts w
      match w.rest with
      | [] => throw (.unclosedAfter w.last)
      | ")" :: rest => return (value, ⟨")", rest⟩)
      | word :: _ => throw (.unclosedBefore word)
    | ")" => throw .closing
    | word => return (word, w)

end

def evaluate (words : List String) : Except Fault String := do
  let (value, w) ← level (16 * (words.length + 2)) 0 true ⟨"expr", words⟩
  match w.rest with
  | [] => return value
  | word :: _ => throw (.unexpected word)

end Expression

/-- Evaluates an expression. -/
def expr (s : Scene) : Deed :=
  match (if s.args.head? = some "--" then s.args.tail else s.args) with
  | [] => complaint s (hint "expr" "missing operand") 2
  | words =>
    match Expression.evaluate words with
    | .ok value =>
      ofWrites s [(.out, Bytes.ofString (value ++ "\n"))] (if Expression.isNull value then 1 else 0)
    | .error f => complaint s ("expr: " ++ f.message) 2

end Scratchpad.Shell.Tools
