import Scratchpad.Decimal.Binary64
import Scratchpad.Text.Character

/-!
# TOML scalars

Strings, integers, floats, booleans and date-times. `Scalar.ofText?` reads the unquoted ones: an
integer in one of four bases, with single underscores between digits; a float, which must not
overflow a double; and the date-time forms of RFC 3339, whose seconds may be left out. Integers
range over 128 bits, signed or unsigned.
-/

namespace Scratchpad.Toml

inductive Scalar
  | string (s : String)
  | integer (n : Int)
  | float (text : String)
  | bool (b : Bool)
  | datetime (text : String)
deriving DecidableEq, Repr

namespace Scalar

/-! ## Numbers -/

/-- Digits without the underscores, each of which must stand between two digits; `after` says
whether a digit came last. -/
def ungroup (isDigit : Char → Bool) (after : Bool) : List Char → Option (List Char)
  | [] => if after then some [] else none
  | c :: rest =>
    if isDigit c then (ungroup isDigit true rest).map (c :: ·)
    else if c = '_' ∧ after then ungroup isDigit false rest
    else none

def digits? (cs : List Char) : Option (List Char) :=
  ungroup Char.isDigit false cs

/-- Decimal digits without a leading zero. -/
def whole? (cs : List Char) : Option (List Char) := do
  let ds ← digits? cs
  match ds with
  | '0' :: _ :: _ => none
  | _ => some ds

/-- A number in a base of at most sixteen. -/
def based? (base : Nat) (cs : List Char) : Option Nat := do
  let value (c : Char) : Nat := (Text.hexValue? c).getD base
  return (← ungroup (value · < base) false cs).foldl (fun n c => n * base + value c) 0

def natural? : List Char → Option Nat
  | '0' :: 'x' :: cs => based? 16 cs
  | '0' :: 'o' :: cs => based? 8 cs
  | '0' :: 'b' :: cs => based? 2 cs
  | cs => do return Nat.ofDigitChars 10 (← whole? cs) 0

/-- The text without its sign, and whether it is negative. -/
def signed (cs : List Char) : Bool × List Char :=
  match cs with
  | '-' :: rest => (true, rest)
  | '+' :: rest => (false, rest)
  | cs => (false, cs)

/-- Only decimal integers may have a sign. -/
def integer? (cs : List Char) : Option Int := do
  let (negative, rest) := signed cs
  let n : Int ←
    if rest.length = cs.length then natural? cs
    else pure (Nat.ofDigitChars 10 (← whole? rest) 0 : Nat)
  let n := if negative then -n else n
  if -(1 <<< 127 : Nat) ≤ n ∧ n < (1 <<< 128 : Nat) then some n else none

/-- Does the decimal `digits * 10 ^ scale` stay within the doubles? -/
def isFinite (digits : Nat) (scale : Int) : Bool :=
  let top : Int := (Nat.toDigits 10 digits).length + scale
  if digits = 0 ∨ top ≤ 308 then true
  else if 310 < top then false
  else if 0 ≤ scale then (Binary64.nearest? (digits * Nat.pow 10 scale.toNat) 1).isSome
  else (Binary64.nearest? digits (Nat.pow 10 (-scale).toNat)).isSome

/-- The value of the digits after an exponent mark. -/
def exponent? (cs : List Char) : Option Int := do
  let (negative, rest) := signed cs
  let n : Nat := Nat.ofDigitChars 10 (← digits? rest) 0
  return if negative then -n else n

/-- A decimal with a fraction, an exponent or both, that is no overflow. -/
def isFloat (cs : List Char) : Bool :=
  let (_, cs) := signed cs
  if cs = "inf".toList ∨ cs = "nan".toList then true
  else
    let isMark (c : Char) : Bool := c == 'e' || c == 'E'
    let mantissa := cs.takeWhile (!isMark ·)
    let mark := cs.dropWhile (!isMark ·)
    let whole := mantissa.takeWhile (· != '.')
    let fraction := mantissa.dropWhile (· != '.')
    let parts : Option (Nat × Int) := do
      let ws ← whole? whole
      let fs ← if fraction.isEmpty then some [] else digits? (fraction.drop 1)
      let e ← if mark.isEmpty then some 0 else exponent? (mark.drop 1)
      return (Nat.ofDigitChars 10 (ws ++ fs) 0, e - fs.length)
    match parts with
    | none => false
    | some (digits, scale) => !(fraction.isEmpty && mark.isEmpty) && isFinite digits scale

/-! ## Date-times -/

/-- Two digits that make a number in the given range, and what follows. -/
def two? (low high : Nat) : List Char → Option (List Char)
  | a :: b :: rest =>
    let n := Nat.ofDigitChars 10 [a, b] 0
    if a.isDigit ∧ b.isDigit ∧ low ≤ n ∧ n ≤ high then some rest else none
  | _ => none

def expect? (c : Char) : List Char → Option (List Char)
  | d :: rest => if c = d then some rest else none
  | [] => none

def daysIn (year month : Nat) : Nat :=
  if month = 2 then
    if year % 4 = 0 ∧ (year % 100 ≠ 0 ∨ year % 400 = 0) then 29 else 28
  else if month = 4 ∨ month = 6 ∨ month = 9 ∨ month = 11 then 30
  else 31

/-- What follows a date. -/
def afterDate? (cs : List Char) : Option (List Char) := do
  let year := cs.take 4
  if year.length = 4 ∧ year.all Char.isDigit then
    let month ← expect? '-' (cs.drop 4)
    let rest ← expect? '-' (← two? 1 12 month)
    let days := daysIn (Nat.ofDigitChars 10 year 0) (Nat.ofDigitChars 10 (month.take 2) 0)
    two? 1 days rest
  else none

def isDate (cs : List Char) : Bool :=
  afterDate? cs == some []

/-- What follows a time of day; the sixtieth second is a leap second. -/
def afterTime? (cs : List Char) : Option (List Char) := do
  let rest ← two? 0 59 (← expect? ':' (← two? 0 23 cs))
  match rest with
  | ':' :: seconds =>
    let rest ← two? 0 60 seconds
    match rest with
    | '.' :: fraction =>
      let after := fraction.dropWhile Char.isDigit
      if after.length < fraction.length then some after else none
    | rest => some rest
  | rest => some rest

/-- Nothing, or an offset from universal time. -/
def isOffset : List Char → Bool
  | [] => true
  | ['Z'] => true
  | ['z'] => true
  | '+' :: rest | '-' :: rest =>
    (do two? 0 59 (← expect? ':' (← two? 0 23 rest))) == some []
  | _ => false

def isDatetime (cs : List Char) : Bool :=
  match afterDate? cs with
  | some [] => true
  | some (c :: rest) =>
    (c == 'T' || c == 't' || c == ' ') && ((afterTime? rest).map isOffset).getD false
  | none => afterTime? cs == some []

/-- The unquoted scalar that the text writes. -/
def ofText? (cs : List Char) : Option Scalar :=
  if cs = "true".toList then some (.bool true)
  else if cs = "false".toList then some (.bool false)
  else match integer? cs with
  | some n => some (.integer n)
  | none =>
    if isFloat cs then some (.float (String.ofList cs))
    else if isDatetime cs then some (.datetime (String.ofList cs))
    else none

end Scalar
end Scratchpad.Toml
