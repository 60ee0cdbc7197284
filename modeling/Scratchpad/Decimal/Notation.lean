import Scratchpad.Decimal.Floating

/-!
# Decimal notation

How floating numbers are written with a given number of digits: with all places up to some place
after the point, as a digit and a power of ten, or as whichever of the two is shorter. All digits are
exact; the last one is rounded, a tie going to the even digit.
-/

namespace Scratchpad.Notation

/-- The digits of a number with some of them behind a point. -/
def pointed (places : Nat) (n : Nat) (keepsPoint : Bool) : List Char :=
  let ds := Nat.toDigits 10 n
  let ds := List.replicate (places + 1 - ds.length) '0' ++ ds
  let whole := ds.take (ds.length - places)
  if places = 0 then (if keepsPoint then whole ++ ['.'] else whole)
  else whole ++ '.' :: ds.drop (ds.length - places)

/-- All places up to `places` after the point. -/
def fixed (places : Nat) (keepsPoint : Bool) (x : Dyadic) : List Char :=
  pointed places (roundDiv (x.numerator * Nat.pow 10 places) x.denominator) keepsPoint

/-- The number times a power of ten, as a fraction. -/
def shifted (x : Dyadic) (e : Int) : Nat × Nat :=
  (x.numerator * Nat.pow 10 e.toNat, x.denominator * Nat.pow 10 (-e).toNat)

/-- The exponent of the highest power of ten that is at most the number, from a first guess that is
too low by little. -/
def leadingPlace (x : Dyadic) : Nat → Int → Int
  | 0, e => e
  | tries + 1, e =>
    let (num, den) := shifted x (-(e + 1))
    if den ≤ num then leadingPlace x tries (e + 1) else e

/-- A number of `places + 1` digits and the exponent of its first one. -/
def rounded (places : Nat) (x : Dyadic) : Nat × Int :=
  if x.mantissa = 0 then (0, 0)
  else
    let guess := (x.exponent + x.mantissa.log2) * 30103 / 100000 - 2
    let e := leadingPlace x 6 guess
    let (num, den) := shifted x (places - e)
    let n := roundDiv num den
    if n = Nat.pow 10 (places + 1) then (Nat.pow 10 places, e + 1) else (n, e)

/-- An exponent with its sign and two digits or more. -/
def exponent (mark : Char) (e : Int) : List Char :=
  let ds := Nat.toDigits 10 e.natAbs
  mark :: (if e < 0 then '-' else '+') :: List.replicate (2 - ds.length) '0' ++ ds

/-- One digit in front of the point and `places` behind it. -/
def scientific (places : Nat) (keepsPoint : Bool) (x : Dyadic) : List Char :=
  let (n, e) := rounded places x
  pointed places n keepsPoint ++ exponent 'e' e

def dropZeros (cs : List Char) : List Char :=
  if cs.contains '.' then
    let kept := cs.reverse.dropWhile (· = '0')
    (if kept.head? = some '.' then kept.drop 1 else kept).reverse
  else cs

/-- At most `size` digits in the shorter notation; zeros at the end are kept only if asked. -/
def general (size : Nat) (keepsZeros : Bool) (x : Dyadic) : List Char :=
  let size := max size 1
  let (n, e) := rounded (size - 1) x
  let trim (cs : List Char) : List Char := if keepsZeros then cs else dropZeros cs
  if -4 ≤ e ∧ e < size then
    let places := (size - 1 - e).toNat
    trim (fixed places keepsZeros x)
  else trim (pointed (size - 1) n keepsZeros) ++ exponent 'e' e

/-- A digit in front of the point and hexadecimal places behind it, with a power of two; a mantissa
of 53 bits begins with a one, a longer one with a digit of four bits. -/
def hexadecimal (bits : Nat) (places : Option Nat) (keepsPoint : Bool) (x : Dyadic) : List Char :=
  let lead := if bits = 53 then 1 else 4
  let size := (bits - lead + 3) / 4
  let length := if x.mantissa = 0 then 0 else x.mantissa.log2 + 1
  let width := 4 * size + lead
  let m := x.mantissa <<< (width - length)
  let e := x.exponent - (width - length : Nat) + 4 * size
  let kept := (places.getD size)
  let m := if kept < size then roundDiv m (1 <<< (4 * (size - kept))) else m <<< (4 * (kept - size))
  let ds := Nat.toDigits 16 m
  let ds := List.replicate (kept + 1 - ds.length) '0' ++ ds
  let part := ds.drop (ds.length - kept)
  let part := if places.isNone then (part.reverse.dropWhile (· = '0')).reverse else part
  let e := if x.mantissa = 0 then 0 else e
  ['0', 'x'] ++ ds.take (ds.length - kept) ++
    (if part = [] ∧ !keepsPoint then [] else '.' :: part) ++
    'p' :: (if e < 0 then '-' else '+') :: Nat.toDigits 10 e.natAbs

end Scratchpad.Notation
