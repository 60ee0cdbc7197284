import Scratchpad.Text.Character

/-!
# Arithmetic

Integer expressions in words of 64 bits. Operators bind as in C; names stand for the numbers that
variables hold, and for zero where a variable holds none. An expression is worked out while it is
read, from left to right, but for the parts that a choice, `&&` or `||` passes over: these are read
and no more. Assignments are remembered in the order in which they were made.
-/

namespace Scratchpad.Shell.Arithmetic

inductive Fault
  | expecting (what : String)
  | divisionByZero
  | illegalNumber (text : List Char)
  | overflow
deriving DecidableEq, Repr

/-- The number in 64 bits that is the same modulo 2^64. -/
def wrap (n : Int) : Int :=
  Int.bmod n UInt64.size

/-- The largest number in 64 bits. -/
def largest : Nat := 9223372036854775807

inductive Token
  | number (n : Int)
  | name (cs : List Char)
  | sign (text : String)
  | unknown
deriving DecidableEq, Repr

/-- Longer signs come before those that they begin with. -/
def signs : List String :=
  ["<<=", ">>=", "||", "&&", "==", "!=", "<=", ">=", "<<", ">>", "+=", "-=", "*=", "/=", "%=",
    "&=", "|=", "^=", "+", "-", "*", "/", "%", "(", ")", "<", ">", "!", "~", "&", "|", "^", "?",
    ":", "="]

def isNameStart (c : Char) : Bool :=
  c.isAlpha || c = '_'

def isNameChar (c : Char) : Bool :=
  c.isAlphanum || c = '_'

def digitsOf (base : Nat) (cs : List Char) : List Char :=
  cs.takeWhile fun c => (Text.hexValue? c).any (· < base)

def valueOf (base : Nat) (digits : List Char) : Nat :=
  digits.foldl (fun n c => n * base + (Text.hexValue? c).getD 0) 0

/-- The base in which a number is written, and its digits with what follows them: it is hexadecimal
behind `0x` and binary behind `0b`, if there are such digits, octal behind a zero, and else decimal. -/
def radix (cs : List Char) : Nat × List Char :=
  match cs with
  | '0' :: x :: c :: r =>
    if (x = 'x' || x = 'X') && (Text.hexValue? c).isSome then (16, c :: r)
    else if (x = 'b' || x = 'B') && (c = '0' || c = '1') then (2, c :: r)
    else (8, cs)
  | '0' :: _ => (8, cs)
  | _ => (10, cs)

/-- The number in front of a text and what follows it. -/
def leadingNumber (cs : List Char) : Nat × List Char :=
  let (base, cs) := radix cs
  let digits := digitsOf base cs
  (valueOf base digits, cs.drop digits.length)

/-- The number that a variable's text stands for. -/
def ofText (text : List Char) : Option Int :=
  let isSpace (c : Char) : Bool := c = ' ' || ('\t' ≤ c && c ≤ '\r')
  let text := text.dropWhile isSpace
  let (negative, cs) := match text with
    | '-' :: r => (true, r)
    | '+' :: r => (false, r)
    | r => (false, r)
  if text.isEmpty then some 0
  else if !cs.head?.any Char.isDigit then none
  else
    let (n, rest) := leadingNumber cs
    let n : Int := if negative then -n else n
    if rest.all isSpace && wrap n = n then some n else none

/-- The tokens of an expression; a number that is too large counts as the largest one. The fuel
bounds their number. -/
def tokens : Nat → List Token → List Char → List Token
  | 0, acc, _ | _, acc, [] => acc.reverse
  | fuel + 1, acc, c :: r =>
    if c = ' ' || c = '\t' || c = '\n' then tokens fuel acc r
    else if c.isDigit then
      let (n, rest) := leadingNumber (c :: r)
      tokens fuel (.number (min n largest) :: acc) rest
    else if isNameStart c then
      let name := (c :: r).takeWhile isNameChar
      tokens fuel (.name name :: acc) ((c :: r).drop name.length)
    else
      match signs.find? fun s => s.toList.isPrefixOf (c :: r) with
      | some sign => tokens fuel (.sign sign :: acc) ((c :: r).drop sign.length)
      | none => tokens fuel (.unknown :: acc) r

/-- How tightly an operator of two operands binds. -/
def strength? : String → Option Nat
  | "|" => some 1
  | "^" => some 2
  | "&" => some 3
  | "==" | "!=" => some 4
  | "<" | ">" | "<=" | ">=" => some 5
  | "<<" | ">>" => some 6
  | "+" | "-" => some 7
  | "*" | "/" | "%" => some 8
  | _ => none

/-- The operator that an assignment applies to the old value and the new one; the plain assignment
has none. -/
def assignment? : String → Option (Option String)
  | "=" => some none
  | "+=" => some (some "+")
  | "-=" => some (some "-")
  | "*=" => some (some "*")
  | "/=" => some (some "/")
  | "%=" => some (some "%")
  | "<<=" => some (some "<<")
  | ">>=" => some (some ">>")
  | "&=" => some (some "&")
  | "|=" => some (some "|")
  | "^=" => some (some "^")
  | _ => none

def ofBool (b : Bool) : Int :=
  if b then 1 else 0

/-- The quotient or remainder of a division; the smallest number has no quotient by minus one. -/
def divide (f : Int → Int → Int) (a b : Int) : Except Fault Int :=
  if b = 0 then .error .divisionByZero
  else if b = -1 ∧ a = -(largest : Int) - 1 then .error .overflow
  else .ok (f a b)

/-- The result of an operator, before it is brought into 64 bits. -/
def operate (sign : String) (a b : Int) : Except Fault Int :=
  let word (n : Int) : BitVec 64 := BitVec.ofInt 64 n
  match sign with
  | "|" => .ok (word a ||| word b).toInt
  | "^" => .ok (word a ^^^ word b).toInt
  | "&" => .ok (word a &&& word b).toInt
  | "==" => .ok (ofBool (a = b))
  | "!=" => .ok (ofBool (a ≠ b))
  | "<" => .ok (ofBool (a < b))
  | ">" => .ok (ofBool (a > b))
  | "<=" => .ok (ofBool (a ≤ b))
  | ">=" => .ok (ofBool (a ≥ b))
  | "<<" => .ok (word a <<< (b % 64).toNat).toInt
  | ">>" => .ok ((word a).sshiftRight (b % 64).toNat).toInt
  | "+" => .ok (a + b)
  | "-" => .ok (a - b)
  | "*" => .ok (a * b)
  | "/" => divide Int.tdiv a b
  | _ => divide Int.tmod a b

/-- What is left to read, and the assignments made so far, last one first. -/
structure Course where
  tokens : List Token
  given : List (List Char × Int)

namespace Course

def drop (c : Course) : Course :=
  { c with tokens := c.tokens.tail }

/-- The number that a name stands for now. -/
def look (value : List Char → List Char) (c : Course) (name : List Char) : Except Fault Int :=
  match c.given.lookup name with
  | some n => .ok n
  | none =>
    match ofText (value name) with
    | some n => .ok n
    | none => .error (.illegalNumber (value name))

end Course

mutual

/-- An operand: a number, a name, a sign before an operand, or an expression in parentheses. With
`idle` nothing is looked up or assigned, here and below. -/
def operand (value : List Char → List Char) :
    Nat → Bool → Course → Except Fault (Int × Course)
  | 0, _, _ => .error (.expecting "primary")
  | fuel + 1, idle, c =>
    match c.tokens with
    | .number n :: _ => .ok (n, c.drop)
    | .name cs :: _ => if idle then .ok (0, c.drop) else (c.look value cs).map (·, c.drop)
    | .sign "(" :: _ => do
      let (n, c) ← whole value fuel idle c.drop
      match c.tokens with
      | .sign ")" :: _ => .ok (n, c.drop)
      | _ => .error (.expecting "')'")
    | .sign "-" :: _ => (operand value fuel idle c.drop).map fun (n, c) => (wrap (-n), c)
    | .sign "+" :: _ => operand value fuel idle c.drop
    | .sign "!" :: _ => (operand value fuel idle c.drop).map fun (n, c) => (ofBool (n = 0), c)
    | .sign "~" :: _ => (operand value fuel idle c.drop).map fun (n, c) => (wrap (-n - 1), c)
    | _ => .error (.expecting "primary")

/-- Goes on with a first operand through the operators that bind at least as tightly as `level`. -/
def operators (value : List Char → List Char) :
    Nat → Bool → Nat → Int → Course → Except Fault (Int × Course)
  | 0, _, _, _, _ => .error (.expecting "primary")
  | fuel + 1, idle, level, a, c =>
    match c.tokens with
    | .sign s :: _ =>
      match strength? s with
      | none => .ok (a, c)
      | some k =>
        if k < level then .ok (a, c)
        else do
          let (b, c) ← operand value fuel idle c.drop
          let (b, c) ← operators value fuel idle (k + 1) b c
          let n ← if idle then .ok b else operate s a b
          operators value fuel idle level (wrap n) c
    | _ => .ok (a, c)

/-- Operands joined by `&&`. -/
def all (value : List Char → List Char) : Nat → Bool → Course → Except Fault (Int × Course)
  | 0, _, _ => .error (.expecting "primary")
  | fuel + 1, idle, c => do
    let (a, c) ← operand value fuel idle c
    let (a, c) ← operators value fuel idle 1 a c
    match c.tokens with
    | .sign "&&" :: _ => do
      let (b, c) ← all value fuel (idle || a = 0) c.drop
      .ok (ofBool (a ≠ 0 && b ≠ 0), c)
    | _ => .ok (a, c)

/-- Operands joined by `||`. -/
def any (value : List Char → List Char) : Nat → Bool → Course → Except Fault (Int × Course)
  | 0, _, _ => .error (.expecting "primary")
  | fuel + 1, idle, c => do
    let (a, c) ← all value fuel idle c
    match c.tokens with
    | .sign "||" :: _ => do
      let (b, c) ← any value fuel (idle || a ≠ 0) c.drop
      .ok (ofBool (a ≠ 0 || b ≠ 0), c)
    | _ => .ok (a, c)

/-- An expression without an assignment in front: it may choose between two by a first one. -/
def choice (value : List Char → List Char) : Nat → Bool → Course → Except Fault (Int × Course)
  | 0, _, _ => .error (.expecting "primary")
  | fuel + 1, idle, c => do
    let (a, c) ← any value fuel idle c
    match c.tokens with
    | .sign "?" :: _ => do
      let (b, c) ← whole value fuel (idle || a = 0) c.drop
      match c.tokens with
      | .sign ":" :: _ => do
        let (d, c) ← choice value fuel (idle || a ≠ 0) c.drop
        .ok (if a ≠ 0 then b else d, c)
      | _ => .error (.expecting "':'")
    | _ => .ok (a, c)

/-- A whole expression, which may begin with an assignment. -/
def whole (value : List Char → List Char) : Nat → Bool → Course → Except Fault (Int × Course)
  | 0, _, _ => .error (.expecting "primary")
  | fuel + 1, idle, c =>
    match c.tokens with
    | .name name :: .sign s :: _ =>
      match assignment? s with
      | none => choice value fuel idle c
      | some operator => do
        let (n, c) ← whole value fuel idle c.drop.drop
        if idle then .ok (n, c)
        else do
          let n ← match operator with
            | none => pure n
            | some operator => do
              let old ← c.look value name
              pure (wrap (← operate operator old n))
          .ok (n, { c with given := (name, n) :: c.given })
    | _ => choice value fuel idle c

end

/-- The value of an expression and the assignments in it, in order; `value` gives the text of a
variable. -/
def evaluate (value : List Char → List Char) (text : List Char) :
    Except Fault (Int × List (List Char × Int)) := do
  let ts := tokens (text.length + 1) [] text
  let (n, c) ← whole value (8 * ts.length + 8) false ⟨ts, []⟩
  if c.tokens = [] then .ok (n, c.given.reverse) else .error (.expecting "EOF")

end Scratchpad.Shell.Arithmetic
