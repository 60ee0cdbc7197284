import Scratchpad.Decimal.Binary64

/-!
# JSON numbers

A number literal is the written form: digits, fraction and exponent. Its value is an integer when
it is written as one and fits 64 bits, signed or unsigned, and a double otherwise.

The double is found by scaling: as many leading digits as fit 64 bits are rounded to a double, and
that is multiplied or divided by a rounded power of ten. Scaling rounds more than once, so a literal
of many digits may miss the nearest double by one place. A literal that scales beyond the largest
double has no value.
-/

namespace Scratchpad.Json

structure Literal where
  negative : Bool
  whole : List Char
  fraction : List Char
  exponent : Option (Bool × List Char)
deriving DecidableEq, Repr

/-- An integer in `-2 ^ 63 … 2 ^ 64 - 1`, or a double with its sign; zero may be negative. -/
inductive Number
  | int (n : Int)
  | real (negative : Bool) (magnitude : Binary64)
deriving DecidableEq, Repr

namespace Literal

/-- The digits kept so far as `value * 10 ^ scale`; once one is dropped, so are all that follow. -/
structure Significand where
  value : Nat
  scale : Int
  full : Bool

def Significand.push (kept dropped : Int) (s : Significand) (c : Char) : Significand :=
  let value := s.value * 10 + (c.toNat - '0'.toNat)
  if s.full ∨ UInt64.size ≤ value then { s with scale := s.scale + dropped, full := true }
  else { s with value := value, scale := s.scale + kept }

/-- The fraction starts with room again: a digit after the point may still fit. -/
def significand (l : Literal) : Significand :=
  let s := l.whole.foldl (Significand.push 0 1) ⟨0, 0, false⟩
  l.fraction.foldl (Significand.push (-1) 0) { s with full := false }

def exponentValue (l : Literal) : Int :=
  match l.exponent with
  | none => 0
  | some (negative, digits) =>
    let n : Int := Nat.ofDigitChars 10 digits 0
    if negative then -n else n

/-- The largest power of ten that is a finite double. -/
def maxPower : Nat := 308

/-- One multiplication or division by `10 ^ |k|`, two divisions when one power is not enough. -/
def scaleBy (x : Binary64) (k : Int) : Option Binary64 :=
  if x = .zero then some x
  else if k < -2 * maxPower then some .zero
  else if k < -maxPower then do
    let y ← x.div? (← Binary64.pow10? maxPower)
    y.div? (← Binary64.pow10? (-(k + maxPower)).toNat)
  else if k < 0 then do x.div? (← Binary64.pow10? (-k).toNat)
  else if k ≤ maxPower then do x.mul? (← Binary64.pow10? k.toNat)
  else none

def real? (l : Literal) : Option Number := do
  let s := l.significand
  let x ← Binary64.nearest? s.value 1
  return .real l.negative (← scaleBy x (s.scale + l.exponentValue))

/-- The integer that the literal is written as, unless it has a fraction or an exponent, exceeds
64 bits or is a negative zero. -/
def int? (l : Literal) : Option Int :=
  if l.fraction ≠ [] ∨ l.exponent ≠ none then none
  else
    let n := Nat.ofDigitChars 10 l.whole 0
    if l.negative then if 0 < n ∧ n ≤ UInt64.size / 2 then some (-n) else none
    else if n < UInt64.size then some n else none

def value? (l : Literal) : Option Number :=
  match l.int? with
  | some n => some (.int n)
  | none => l.real?

end Literal

namespace Number

/-- Decimal digits of a real number whose leading digit stands for `10 ^ e` are written plainly for
`-5 ≤ e ≤ 15`, with at least one digit after the point, and else with an exponent and its sign. -/
def realText (x : Binary64) : List Char :=
  let d := x.shortest
  let digits := Nat.toDigits 10 d.digits
  let e := d.exponent + digits.length - 1
  if x.mantissa = 0 then "0.0".toList
  else if -5 ≤ e ∧ e ≤ 15 then
    if e < 0 then "0.".toList ++ List.replicate (-e - 1).toNat '0' ++ digits
    else if d.exponent < 0 then
      digits.take (e + 1).toNat ++ '.' :: digits.drop (e + 1).toNat
    else digits ++ List.replicate d.exponent.toNat '0' ++ ".0".toList
  else
    let point := if digits.length = 1 then [] else ['.']
    digits.take 1 ++ point ++ digits.drop 1 ++
      'e' :: (if e < 0 then '-' else '+') :: Nat.toDigits 10 e.natAbs

def text : Number → List Char
  | .int n => (if n < 0 then ['-'] else []) ++ Nat.toDigits 10 n.natAbs
  | .real negative x => (if negative then ['-'] else []) ++ realText x

end Number
end Scratchpad.Json
