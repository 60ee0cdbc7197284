import Scratchpad.Shell.Arithmetic
import Scratchpad.Shell.ByteText

/-!
# Calculations

The expressions of the rich dialect. They are worked out in words of 64 bits while they are read, a
token at a time. A variable stands for the value of the expression that it holds; it may be a member
of a list, with a key in brackets. Where something is wrong, the complaint shows the expression and
what is left of it from the last token on.
-/

namespace Scratchpad.Shell.Calculation

open Arithmetic (wrap)

structure Fault where
  said : String
  expression : List Char
  token : List Char

/-- A variable or a member of a list. -/
structure Place where
  name : List Char
  key : Option (List Char)
deriving DecidableEq, Repr

inductive Token
  | finish
  | name
  | number
  | sign (text : String)
  | assign (operator : String)
  | before (step : Int)
  | behind (step : Int)
deriving DecidableEq, Repr

/-- How a calculation knows the variables around it. -/
structure Surroundings where
  get : Place → Option (List Char)
  keyed : List Char → Bool
  wary : Bool

/-- Where a calculation is: the whole expression, what is left of it, the last token and where it
began, the token before it, and the assignments made so far, last one first. While it is idle it reads
without looking anything up. -/
structure Course where
  whole : List Char
  rest : List Char
  start : List Char
  token : Token
  last : Token
  value : Int
  place : Place
  idle : Bool
  given : List (Place × Int)

abbrev Work := StateT Course (Except Fault)

def isBlank (c : Char) : Bool :=
  c = ' ' || c = '\t' || c = '\n'

def fail {α : Type} (said : String) : Work α := fun c =>
  .error ⟨said, c.whole.dropWhile isBlank, c.start⟩

/-- A complaint about a number, which shows the expression up to its end. -/
def failNumber {α : Type} (said : String) (number : List Char) : Work α := fun c =>
  let read := c.whole.length - c.start.length + number.length
  .error ⟨said, (c.whole.take read).dropWhile isBlank, number⟩

/-- The value of a digit in a base. -/
def digit? (base : Nat) (c : Char) : Option Nat :=
  if c.isDigit then some (c.toNat - '0'.toNat)
  else if c.isLower then some (c.toNat - 'a'.toNat + 10)
  else if c.isUpper then some (c.toNat - 'A'.toNat + (if base ≤ 36 then 10 else 36))
  else if c = '@' then some 62
  else if c = '_' then some 63
  else none

/-- The value of digits behind those that were read; a hash makes a base of them. -/
def digitsIn (number : List Char) (base : Nat) (based : Bool) (acc : Nat) : List Char → Work Int
  | [] => return wrap acc
  | '#' :: r =>
    if based then failNumber "invalid number" number
    else if acc < 2 || 64 < acc then failNumber "invalid arithmetic base" number
    else if r = [] then failNumber "invalid integer constant" number
    else digitsIn number acc true 0 r
  | c :: r =>
    match digit? base c with
    | some d =>
      if base ≤ d then failNumber "value too great for base" number
      else digitsIn number base based (acc * base + d) r
    | none => return wrap acc

def numberOf (number : List Char) : Work Int :=
  match number with
  | ['0'] => return 0
  | '0' :: 'x' :: r | '0' :: 'X' :: r => digitsIn number 16 true 0 r
  | '0' :: r => digitsIn number 8 true 0 r
  | r => digitsIn number 10 false 0 r

/-- Signs, longer ones before those that they begin with. -/
def signs : List String :=
  ["<<=", ">>=", "==", "!=", ">=", "<=", "<<", ">>", "&&", "||", "**", "*=", "/=", "%=", "+=", "-=",
    "&=", "^=", "|=", "+", "-", "*", "/", "%", "(", ")", "!", "~", "<", ">", "&", "|", "^", "=",
    "?", ":", ","]

def tokenOf (sign : String) : Token :=
  if ["<<=", ">>=", "*=", "/=", "%=", "+=", "-=", "&=", "^=", "|="].contains sign then
    .assign (String.ofList (sign.toList.dropLast))
  else .sign sign

/-- The text up to the bracket that closes one, and what follows it. -/
def bracketed (depth : Nat) (acc : List Char) : List Char → Option (List Char × List Char)
  | [] => none
  | ']' :: r =>
    match depth with
    | 0 => some (acc.reverse, r)
    | depth + 1 => bracketed depth (']' :: acc) r
  | '[' :: r => bracketed (depth + 1) ('[' :: acc) r
  | c :: r => bracketed depth (c :: acc) r

/-- Reads a sign; two that are alike may step a variable before or behind it. -/
def readSign (cs : List Char) : Work Unit := do
  let c ← get
  let found (t : Token) (rest : List Char) : Work Unit :=
    set { c with last := c.token, token := t, rest }
  match cs with
  | a :: b :: r =>
    if (a = '+' || a = '-') && a = b then
      let step : Int := if a = '+' then 1 else -1
      if c.token = .name then found (.behind step) r
      else if c.token = .number && (c.last = .before 1 || c.last = .before (-1)) then
        fail (if a = '+' then "++: assignment requires lvalue" else "--: assignment requires lvalue")
      else if (r.dropWhile isBlank).head?.any Arithmetic.isNameStart then found (.before step) r
      else found (.sign (String.singleton a)) (b :: r)
    else
      match signs.find? fun s => s.toList.isPrefixOf cs with
      | some sign => found (tokenOf sign) (cs.drop sign.length)
      | none => wrong c
  | cs =>
    match signs.find? fun s => s.toList.isPrefixOf cs with
    | some sign => found (tokenOf sign) (cs.drop sign.length)
    | none => wrong c
where
  wrong (c : Course) : Work Unit :=
    match c.token with
    | .name | .number => fail "syntax error: invalid arithmetic operator"
    | _ => fail "syntax error: operand expected"

/-- The power of a number. -/
def power (a : Int) (n : Nat) : Int :=
  let rec go : Nat → Int → Nat → Int → Int
    | 0, _, _, acc => acc
    | fuel + 1, a, n, acc =>
      if n = 0 then acc
      else go fuel (wrap (a * a)) (n / 2) (if n % 2 = 1 then wrap (acc * a) else acc)
  go 64 a n 1

/-- Operators of two operands from those that bind least. -/
def levels : List (List String) :=
  [["||"], ["&&"], ["|"], ["^"], ["&"], ["==", "!="], ["<", ">", "<=", ">="], ["<<", ">>"],
    ["+", "-"], ["*", "/", "%"]]

def operate (sign : String) (a b : Int) : Work Int :=
  match sign with
  | "**" => if b < 0 then fail "exponent less than 0" else return power a b.toNat
  | "/" | "%" =>
    if b = 0 then fail "division by 0"
    else if b = -1 then return (if sign = "/" then wrap (-a) else 0)
    else return wrap (if sign = "/" then Int.tdiv a b else Int.tmod a b)
  | sign =>
    match Arithmetic.operate sign a b with
    | .ok n => return wrap n
    | .error _ => fail "syntax error in expression"

/-- Remembers an assignment. -/
def assign (place : Place) (n : Int) : Work Unit :=
  modify fun c => if c.idle then c else { c with given := (place, n) :: c.given }

/-- Does a step while idle, if so. -/
def idly {α : Type} (idle : Bool) (step : Work α) : Work α := do
  let before := (← get).idle
  modify fun c => { c with idle := before || idle }
  let a ← step
  modify fun c => { c with idle := before }
  return a

def isSign (text : String) : Work Bool := do
  return (← get).token = .sign text

mutual

/-- Reads the next token. -/
def next (s : Surroundings) : Nat → Work Unit
  | 0 => fail "expression recursion level exceeded"
  | fuel + 1 => do
    let c ← get
    let cs := c.rest.dropWhile isBlank
    match cs with
    | [] => set { c with last := c.token, token := .finish, rest := [] }
    | a :: _ =>
      let c := { c with start := cs }
      set c
      if Arithmetic.isNameStart a then
        let name := cs.takeWhile Arithmetic.isNameChar
        let rest := cs.drop name.length
        match rest with
        | '[' :: r =>
          match bracketed 0 [] r with
          | some (inner, r) =>
            let key ←
              if s.keyed name then pure inner
              else do
                let n ← worth s fuel inner
                pure (toString n).toList
            modify fun c =>
              { c with last := c.token, token := .name, rest := r, place := ⟨name, some key⟩ }
          | none => fail "bad array subscript"
        | rest => set { c with last := c.token, token := .name, rest, place := ⟨name, none⟩ }
      else if a.isDigit then
        let number := cs.takeWhile fun c => c.isAlphanum || c = '#' || c = '@' || c = '_'
        let value ← numberOf number
        set { c with last := c.token, token := .number, rest := cs.drop number.length, value }
      else readSign cs

/-- The value of an expression inside of another one. -/
def worth (s : Surroundings) : Nat → List Char → Work Int
  | 0, _ => fail "expression recursion level exceeded"
  | fuel + 1, text => do
    if text.all isBlank then return 0
    else
      let outer ← get
      set { outer with
        whole := text, rest := text, start := text, token := .finish, last := .finish }
      next s fuel
      let n ← all s fuel
      if (← get).token ≠ .finish then fail "syntax error in expression"
      else
        modify fun c => { outer with given := c.given }
        return n

/-- The number that a variable stands for. -/
def look (s : Surroundings) : Nat → Place → Work Int
  | 0, _ => fail "expression recursion level exceeded"
  | fuel + 1, place => do
    let c ← get
    if c.idle then return 0
    else
      match c.given.lookup place with
      | some n => return n
      | none =>
        match s.get place with
        | some text => worth s fuel text
        | none =>
          if s.wary then fun c => .error ⟨"unbound variable", place.name, c.start⟩ else return 0

/-- Expressions joined by commas. -/
def all (s : Surroundings) : Nat → Work Int
  | 0 => fail "expression recursion level exceeded"
  | fuel + 1 => do
    let n ← assignment s fuel
    if ← isSign "," then
      next s fuel
      all s fuel
    else return n

def assignment (s : Surroundings) : Nat → Work Int
  | 0 => fail "expression recursion level exceeded"
  | fuel + 1 => do
    let old ← choice s fuel
    let c ← get
    let operator? : Option (Option String) := match c.token with
      | .sign "=" => some none
      | .assign operator => some (some operator)
      | _ => none
    match operator? with
    | none => return old
    | some operator =>
      if c.last ≠ .name then fail "attempted assignment to non-variable"
      else
        let place := c.place
        next s fuel
        let n ← assignment s fuel
        let n ← match operator with
          | none => pure n
          | some operator => if (← get).idle then pure n else operate operator old n
        assign place n
        return n

def choice (s : Surroundings) : Nat → Work Int
  | 0 => fail "expression recursion level exceeded"
  | fuel + 1 => do
    let a ← binary s fuel levels
    if ← isSign "?" then
      let yes ← idly (a = 0) do
        next s fuel
        if (← get).token = .finish || (← isSign ":") then fail "expression expected"
        else all s fuel
      if !(← isSign ":") then fail "`:' expected for conditional expression"
      else
        let no ← idly (a ≠ 0) do
          next s fuel
          if (← get).token = .finish then fail "expression expected" else choice s fuel
        modify fun c => { c with last := .number }
        return if a ≠ 0 then yes else no
    else return a

/-- Operands joined by the operators of the first level, or of those that bind more. -/
def binary (s : Surroundings) : Nat → List (List String) → Work Int
  | 0, _ => fail "expression recursion level exceeded"
  | fuel + 1, [] => exponent s fuel
  | fuel + 1, level :: more => do
    let a ← binary s fuel more
    further s fuel level more a

/-- Goes on with a first operand. -/
def further (s : Surroundings) : Nat → List String → List (List String) → Int → Work Int
  | 0, _, _, _ => fail "expression recursion level exceeded"
  | fuel + 1, level, more, a => do
    match (← get).token with
    | .sign sign =>
      if !level.contains sign then return a
      else
        let start := (← get).rest.dropWhile isBlank
        let idle := (sign = "&&" && a = 0) || (sign = "||" && a ≠ 0)
        let b ← idly idle do
          next s fuel
          binary s fuel more
        let n ←
          if sign = "&&" then pure (Arithmetic.ofBool (a ≠ 0 && b ≠ 0))
          else if sign = "||" then pure (Arithmetic.ofBool (a ≠ 0 || b ≠ 0))
          else if (← get).idle then pure b
          else if (sign = "/" || sign = "%") && b = 0 then
            modify fun c => { c with start }
            operate sign a b
          else operate sign a b
        modify fun c => { c with last := .number }
        further s fuel level more n
    | _ => return a

def exponent (s : Surroundings) : Nat → Work Int
  | 0 => fail "expression recursion level exceeded"
  | fuel + 1 => do
    let a ← operand s fuel
    if ← isSign "**" then
      next s fuel
      let b ← exponent s fuel
      modify fun c => { c with last := .number }
      if (← get).idle then return b else operate "**" a b
    else return a

/-- An operand with the signs in front of it. -/
def operand (s : Surroundings) : Nat → Work Int
  | 0 => fail "expression recursion level exceeded"
  | fuel + 1 => do
    let signed (f : Int → Int) : Work Int := do
      next s fuel
      let n ← operand s fuel
      modify fun c => { c with last := .number }
      return wrap (f n)
    let c ← get
    match c.token with
    | .sign "!" => signed fun n => Arithmetic.ofBool (n = 0)
    | .sign "~" => signed fun n => -n - 1
    | .sign "-" => signed fun n => -n
    | .sign "+" => signed fun n => n
    | .before step =>
      next s fuel
      let place := (← get).place
      let n ← look s fuel place
      assign place (wrap (n + step))
      modify fun c => { c with token := .number }
      next s fuel
      return wrap (n + step)
    | .sign "(" =>
      next s fuel
      let n ← all s fuel
      if !(← isSign ")") then fail "missing `)'"
      else
        next s fuel
        return n
    | .number =>
      let n := c.value
      next s fuel
      return n
    | .name =>
      let place := c.place
      let settles := match c.rest.dropWhile isBlank with
        | '=' :: '=' :: _ => false
        | '=' :: _ => true
        | _ => false
      let n ← if settles then pure 0 else look s fuel place
      next s fuel
      match (← get).token with
      | .behind step =>
        assign place (wrap (n + step))
        modify fun c => { c with token := .number }
        next s fuel
        return n
      | _ =>
        modify fun c => { c with place }
        return n
    | _ => fail "syntax error: operand expected"

end

/-- The value of an expression and the assignments in it, in order. -/
def evaluate (s : Surroundings) (text : List Char) : Except Fault (Int × List (Place × Int)) :=
  let start : Course := ⟨text, text, text, .finish, .finish, 0, ⟨[], none⟩, false, []⟩
  match worth s (24 * text.length + 2000) text start with
  | .ok (n, c) => .ok (n, c.given.reverse)
  | .error f => .error f

/-- What is said of a calculation that fails. -/
def Fault.message (f : Fault) : String :=
  if f.said = "unbound variable" then ByteText.shown f.expression ++ ": unbound variable"
  else
    ByteText.shown f.expression ++ ": " ++ f.said ++ " (error token is \"" ++
      ByteText.shown f.token ++ "\")"

end Scratchpad.Shell.Calculation
