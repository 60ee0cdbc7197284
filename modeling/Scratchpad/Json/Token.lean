import Scratchpad.Json.Number
import Scratchpad.Text.Character

/-!
# JSON tokens

The lexical part of the JSON grammar (RFC 8259), over the units of a UTF-8 scan: a unit is a
character, or `none` for bytes that encode none. The scanner takes one unit at a time, so it needs
no look-ahead and no bound: `Token.scan` is a fold.

A string token records whether its contents are Unicode text. They are not when bytes inside the
quotes are not UTF-8 or when a surrogate is escaped without its pair; such a string is well-formed
but has no value.
-/

namespace Scratchpad.Json

inductive Token
  | openObject
  | closeObject
  | openArray
  | closeArray
  | colon
  | comma
  | null
  | bool (b : Bool)
  | number (l : Literal)
  | string (text : Option String)
deriving DecidableEq, Repr

namespace Token

/-- The contents of a string up to here, last character first; `high` is a leading surrogate that
waits for its pair. -/
structure Contents where
  chars : List Char
  isText : Bool
  high : Option Nat

namespace Contents

def empty : Contents := ⟨[], true, none⟩

def push (s : Contents) (c : Char) : Contents :=
  { chars := c :: s.chars, isText := s.isText && s.high.isNone, high := none }

def pushStray (s : Contents) : Contents :=
  { s with isText := false }

/-- A `\u` escape: two surrogates in a row make one character. -/
def pushCode (s : Contents) (code : Nat) : Contents :=
  let low := 0xDC00 ≤ code && code < 0xE000
  match s.high with
  | some high =>
    if low then ⟨Char.ofNat (0x10000 + (high - 0xD800) * 0x400 + (code - 0xDC00)) :: s.chars,
      s.isText, none⟩
    else { s with isText := false }
  | none =>
    if 0xD800 ≤ code && code < 0xDC00 then { s with high := some code }
    else if low then { s with isText := false }
    else s.push (Char.ofNat code)

def token (s : Contents) : Token :=
  .string (if s.isText && s.high.isNone then some (String.ofList s.chars.reverse) else none)

end Contents

/-- How far a number literal has come. -/
inductive Part
  | sign
  | whole
  | point
  | fraction
  | mark
  | markSign
  | exponent
deriving DecidableEq, Repr

/-- Where the scanner stands; digits of a number are kept last one first. -/
inductive Mode
  | between
  | word (left : List Char) (token : Token)
  | number (part : Part) (l : Literal)
  | string (s : Contents)
  | escape (s : Contents)
  | hex (s : Contents) (left : Nat) (code : Nat)

structure Scanner where
  tokens : List Token
  mode : Mode

namespace Scanner

def start : Scanner := ⟨[], .between⟩

def isSpace (c : Char) : Bool :=
  c == ' ' || c == '\t' || c == '\n' || c == '\r'

/-- The character that a one-letter escape stands for. -/
def escaped? (c : Char) : Option Char :=
  match c with
  | '"' => some '"'
  | '\\' => some '\\'
  | '/' => some '/'
  | 'b' => some '\x08'
  | 'f' => some '\x0c'
  | 'n' => some '\n'
  | 'r' => some '\r'
  | 't' => some '\t'
  | _ => none

/-- A character where a token may begin. -/
def begin (tokens : List Token) (c : Char) : Option Scanner :=
  if isSpace c then some ⟨tokens, .between⟩
  else match c with
  | '{' => some ⟨.openObject :: tokens, .between⟩
  | '}' => some ⟨.closeObject :: tokens, .between⟩
  | '[' => some ⟨.openArray :: tokens, .between⟩
  | ']' => some ⟨.closeArray :: tokens, .between⟩
  | ':' => some ⟨.colon :: tokens, .between⟩
  | ',' => some ⟨.comma :: tokens, .between⟩
  | '"' => some ⟨tokens, .string .empty⟩
  | 'n' => some ⟨tokens, .word "ull".toList .null⟩
  | 't' => some ⟨tokens, .word "rue".toList (.bool true)⟩
  | 'f' => some ⟨tokens, .word "alse".toList (.bool false)⟩
  | '-' => some ⟨tokens, .number .sign ⟨true, [], [], none⟩⟩
  | c => if c.isDigit then some ⟨tokens, .number .whole ⟨false, [c], [], none⟩⟩ else none

/-- The literal with its digits in order, if it may end here. -/
def endNumber (part : Part) (l : Literal) : Option Literal :=
  match part with
  | .whole | .fraction | .exponent =>
    some ⟨l.negative, l.whole.reverse, l.fraction.reverse,
      l.exponent.map fun e => (e.1, e.2.reverse)⟩
  | _ => none

def stepNumber (tokens : List Token) (part : Part) (l : Literal) (c : Char) : Option Scanner :=
  let go (part : Part) (l : Literal) : Option Scanner := some ⟨tokens, .number part l⟩
  let close : Option Scanner := do begin (.number (← endNumber part l) :: tokens) c
  let digit := c.isDigit
  let mark := c == 'e' || c == 'E'
  match part with
  | .sign => if digit then go .whole { l with whole := [c] } else none
  | .whole =>
    if digit then if l.whole = ['0'] then none else go .whole { l with whole := c :: l.whole }
    else if c = '.' then go .point l
    else if mark then go .mark l
    else close
  | .point => if digit then go .fraction { l with fraction := [c] } else none
  | .fraction =>
    if digit then go .fraction { l with fraction := c :: l.fraction }
    else if mark then go .mark l
    else close
  | .mark =>
    if digit then go .exponent { l with exponent := some (false, [c]) }
    else if c = '+' then go .markSign { l with exponent := some (false, []) }
    else if c = '-' then go .markSign { l with exponent := some (true, []) }
    else none
  | .markSign =>
    if digit then go .exponent { l with exponent := l.exponent.map fun e => (e.1, [c]) } else none
  | .exponent =>
    if digit then
      go .exponent { l with exponent := l.exponent.map fun e => (e.1, c :: e.2) }
    else close

def stepString (tokens : List Token) (s : Contents) (c : Char) : Option Scanner :=
  if c = '"' then some ⟨s.token :: tokens, .between⟩
  else if c = '\\' then some ⟨tokens, .escape s⟩
  else if c.toNat < 0x20 then none
  else some ⟨tokens, .string (s.push c)⟩

def step (s : Scanner) : Option Char → Option Scanner
  | none =>
    match s.mode with
    | .string t => some ⟨s.tokens, .string t.pushStray⟩
    | _ => none
  | some c =>
    match s.mode with
    | .between => begin s.tokens c
    | .word left token =>
      match left with
      | [] => begin (token :: s.tokens) c
      | [d] => if c = d then some ⟨token :: s.tokens, .between⟩ else none
      | d :: left => if c = d then some ⟨s.tokens, .word left token⟩ else none
    | .number part l => stepNumber s.tokens part l c
    | .string t => stepString s.tokens t c
    | .escape t =>
      if c = 'u' then some ⟨s.tokens, .hex t 4 0⟩
      else do return ⟨s.tokens, .string (t.push (← escaped? c))⟩
    | .hex t left code => do
      let code := code * 16 + (← Text.hexValue? c)
      return ⟨s.tokens, if left = 1 then .string (t.pushCode code) else .hex t (left - 1) code⟩

def finish (s : Scanner) : Option (List Token) :=
  match s.mode with
  | .between => some s.tokens.reverse
  | .number part l => do return (.number (← endNumber part l) :: s.tokens).reverse
  | _ => none

end Scanner

/-- The tokens of a text, or `none` when some part of it is no token. -/
def scan (units : List (Option Char)) : Option (List Token) := do
  (← units.foldlM Scanner.step .start).finish

end Token
end Scratchpad.Json
