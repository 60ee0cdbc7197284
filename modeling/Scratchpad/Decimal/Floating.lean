import Scratchpad.Decimal.Binary64

/-!
# Floating numbers

A floating number is a dyadic fraction with a sign, infinite, or no number at all. A precision bounds
mantissa and exponent; what does not fit is rounded once, a tie going to the even mantissa, and what
is too large becomes infinite. Arithmetic is exact before it is rounded.
-/

namespace Scratchpad

/-- The number `mantissa * 2 ^ exponent`. -/
structure Dyadic where
  mantissa : Nat
  exponent : Int
deriving DecidableEq, Repr

namespace Dyadic

def zero : Dyadic := ⟨0, 0⟩

def numerator (x : Dyadic) : Nat :=
  x.mantissa <<< x.exponent.toNat

def denominator (x : Dyadic) : Nat :=
  1 <<< (-x.exponent).toNat

end Dyadic

/-- How many bits a mantissa has, and the bounds of the exponent of its last bit. -/
structure Precision where
  bits : Nat
  least : Int
  most : Int
deriving DecidableEq, Repr

namespace Precision

def double : Precision := ⟨53, -1074, 971⟩

def extended : Precision := ⟨64, -16445, 16320⟩

/-- The number nearest to `num / den`, or `none` when that lies beyond the largest one. -/
def nearest? (p : Precision) (num den : Nat) : Option Dyadic :=
  if num = 0 then some .zero
  else
    let e := max (Binary64.floorLog2 num den - (p.bits - 1)) p.least
    let (n, d) := Binary64.scaled num den e
    let m := roundDiv n d
    let x : Dyadic := if m = 1 <<< p.bits then ⟨1 <<< (p.bits - 1), e + 1⟩ else ⟨m, e⟩
    if x.exponent ≤ p.most then some x else none

end Precision

inductive Floating
  | finite (negative : Bool) (x : Dyadic)
  | infinite (negative : Bool)
  | nan (negative : Bool)
deriving DecidableEq, Repr

namespace Floating

def zero : Floating := .finite false .zero

def isNegative : Floating → Bool
  | .finite negative _ | .infinite negative | .nan negative => negative

def isZero : Floating → Bool
  | .finite _ x => x.mantissa = 0
  | _ => false

def neg : Floating → Floating
  | .finite negative x => .finite (!negative) x
  | .infinite negative => .infinite (!negative)
  | .nan negative => .nan (!negative)

/-- The fraction `num / den` with a sign. -/
def ofFraction (p : Precision) (negative : Bool) (num den : Nat) : Floating :=
  match p.nearest? num den with
  | some x => .finite negative x
  | none => .infinite negative

def ofInt (p : Precision) (n : Int) : Floating :=
  ofFraction p (n < 0) n.natAbs 1

/-- The signed fraction of two integers. -/
def ofRatio (p : Precision) (num : Int) (den : Nat) : Floating :=
  ofFraction p (num < 0) num.natAbs den

/-- The numerator with its sign, and the denominator. -/
def fraction (negative : Bool) (x : Dyadic) : Int × Nat :=
  (if negative then -(x.numerator : Int) else x.numerator, x.denominator)

def add (p : Precision) : Floating → Floating → Floating
  | .finite m x, .finite n y =>
    let (a, b) := fraction m x
    let (c, d) := fraction n y
    let sum := a * d + c * b
    if sum = 0 then .finite (m && n) .zero else ofRatio p sum (b * d)
  | .nan n, _ | _, .nan n => .nan n
  | .infinite m, .infinite n => if m = n then .infinite m else .nan true
  | .infinite n, _ | _, .infinite n => .infinite n

def sub (p : Precision) (a b : Floating) : Floating :=
  a.add p b.neg

def mul (p : Precision) : Floating → Floating → Floating
  | .finite m x, .finite n y =>
    ofFraction p (m != n) (x.numerator * y.numerator) (x.denominator * y.denominator)
  | .nan n, _ | _, .nan n => .nan n
  | a, b => if a.isZero || b.isZero then .nan true else .infinite (a.isNegative != b.isNegative)

def div (p : Precision) : Floating → Floating → Floating
  | .finite m x, .finite n y =>
    if y.mantissa = 0 then (if x.mantissa = 0 then .nan true else .infinite (m != n))
    else ofFraction p (m != n) (x.numerator * y.denominator) (x.denominator * y.numerator)
  | .nan n, _ | _, .nan n => .nan n
  | .infinite _, .infinite _ => .nan true
  | .infinite m, b => .infinite (m != b.isNegative)
  | a, .infinite n => .finite (a.isNegative != n) .zero

/-- What is left of a division with a whole quotient; it has the sign of the dividend. -/
def rem (p : Precision) : Floating → Floating → Floating
  | .finite m x, .finite _ y =>
    if y.mantissa = 0 then .nan true
    else
      let a := x.numerator * y.denominator
      let b := y.numerator * x.denominator
      ofFraction p m (a % b) (x.denominator * y.denominator)
  | .nan n, _ | _, .nan n => .nan n
  | .infinite _, _ => .nan true
  | a, .infinite _ => a

/-- Orders two numbers, unless one of them is none. -/
def compare? : Floating → Floating → Option Ordering
  | .nan _, _ | _, .nan _ => none
  | .finite m x, .finite n y =>
    let (a, b) := fraction m x
    let (c, d) := fraction n y
    some (compare (a * d) (c * b))
  | .infinite m, .infinite n => some (if m = n then .eq else if m then .lt else .gt)
  | .infinite m, _ => some (if m then .lt else .gt)
  | _, .infinite n => some (if n then .gt else .lt)

/-- The whole part, towards zero. -/
def truncate? : Floating → Option Int
  | .finite negative x =>
    let n : Int := (x.numerator / x.denominator : Nat)
    some (if negative then -n else n)
  | _ => none

/-- The number itself if it is whole. -/
def integer? : Floating → Option Int
  | .finite negative x =>
    if x.numerator % x.denominator = 0 then truncate? (.finite negative x) else none
  | _ => none

/-! ## Reading -/

def digitValue? (base : Nat) (c : Char) : Option Nat :=
  let n := c.toNat
  let v? := if 48 ≤ n ∧ n ≤ 57 then some (n - 48)
    else if 97 ≤ n ∧ n ≤ 102 then some (n - 87)
    else if 65 ≤ n ∧ n ≤ 70 then some (n - 55)
    else none
  v?.filter (· < base)

/-- The leading digits of a text, how many there are, and what comes after them. -/
def digits (base : Nat) (cs : List Char) : Nat × Nat × List Char :=
  let ds := cs.takeWhile fun c => (digitValue? base c).isSome
  (ds.foldl (fun n c => n * base + (digitValue? base c).getD 0) 0, ds.length, cs.drop ds.length)

/-- The exponent after a mantissa, if there is one. -/
def exponentAfter (marks : List Char) (cs : List Char) : Int × List Char :=
  match cs with
  | c :: r =>
    if marks.contains c then
      let (negative, ds) := match r with
        | '-' :: r => (true, r)
        | '+' :: r => (false, r)
        | r => (false, r)
      match digits 10 ds with
      | (_, 0, _) => (0, cs)
      | (n, _, rest) => (if negative then -(n : Int) else n, rest)
    else (0, cs)
  | [] => (0, [])

/-- How far beyond the point of a mantissa an exponent of a finite number can be. -/
def farthest : Int := 6000

/-- The number `mantissa * base ^ exponent`. -/
def scaledBy (p : Precision) (negative : Bool) (base mantissa size : Nat) (exponent : Int) :
    Floating :=
  if mantissa = 0 then .finite negative .zero
  else if farthest < exponent then .infinite negative
  else if exponent + size < -farthest then .finite negative .zero
  else ofFraction p negative (mantissa * Nat.pow base exponent.toNat)
    (Nat.pow base (-exponent).toNat)

/-- An unsigned numeral: digits with a point among them and an exponent after them. -/
def numeral? (p : Precision) (negative : Bool) (cs : List Char) : Option (Floating × List Char) :=
  let read (base : Nat) (marks : List Char) (cs : List Char) :
      Option (Nat × Nat × Nat × Int × List Char) :=
    let (_, whole, r) := digits base cs
    let (part, r) := match r with
      | '.' :: r =>
        let (_, n, rest) := digits base r
        (n, rest)
      | r => (0, r)
    if whole + part = 0 then none
    else
      let ds := (cs.take whole) ++ ((cs.drop (whole + 1)).take part)
      let (exponent, r) := exponentAfter marks r
      some ((digits base ds).1, whole + part, part, exponent, r)
  let decimal := (read 10 ['e', 'E'] cs).map fun (m, size, part, e, r) =>
    (scaledBy p negative 10 m size (e - part), r)
  match cs with
  | '0' :: x :: r =>
    if x = 'x' || x = 'X' then
      match read 16 ['p', 'P'] r with
      | some (m, size, part, e, r) =>
        some (scaledBy p negative 2 m (4 * size) (e - 4 * part), r)
      | none => decimal
    else decimal
  | _ => decimal

def isSpace (c : Char) : Bool :=
  c = ' ' || ('\t' ≤ c && c ≤ '\r')

/-- Does a text begin with a word, whose letters may be in any case? -/
def begins (word : String) (cs : List Char) : Bool :=
  (cs.take word.length).map Char.toLower = word.toList

/-- The number that a text begins with, after blanks, and the rest; `none` if there is none. -/
def read? (p : Precision) (cs : List Char) : Option (Floating × List Char) :=
  let cs := cs.dropWhile isSpace
  let (negative, r) := match cs with
    | '-' :: r => (true, r)
    | '+' :: r => (false, r)
    | r => (false, r)
  if begins "infinity" r then some (.infinite negative, r.drop 8)
  else if begins "inf" r then some (.infinite negative, r.drop 3)
  else if begins "nan" r then some (.nan negative, r.drop 3)
  else numeral? p negative r

end Floating
end Scratchpad
