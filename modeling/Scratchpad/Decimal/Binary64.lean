/-!
# Double precision magnitudes

A `Binary64` is a finite non-negative number `mantissa * 2 ^ exponent` of the IEEE format: the
exponent is at least `-1074` and at most `971`, and the mantissa has 53 bits unless the exponent is
least. Arithmetic is exact on fractions and rounds once, to the nearest such number, a tie going to
the even mantissa.

`Binary64.shortest` gives the decimal number `digits * 10 ^ exponent` with the fewest digits among
those that read back as the given one, and of these the nearest to it. All comparisons are exact: a
decimal reads back iff it lies between the midpoints to the two neighbouring doubles, a midpoint
itself counting when the mantissa is even.
-/

namespace Scratchpad

structure Binary64 where
  mantissa : Nat
  exponent : Int
deriving DecidableEq, Repr

/-- The number `digits * 10 ^ exponent`. -/
structure Decimal where
  digits : Nat
  exponent : Int
deriving DecidableEq, Repr

/-- The quotient nearest to `num / den`; a half goes to the even neighbour. -/
def roundDiv (num den : Nat) : Nat :=
  let q := num / den
  let r := num % den
  if den < 2 * r ∨ (2 * r = den ∧ q % 2 = 1) then q + 1 else q

namespace Binary64

def zero : Binary64 := ⟨0, -1074⟩

/-- The fraction `num / den * 2 ^ (-e)`. -/
def scaled (num den : Nat) (e : Int) : Nat × Nat :=
  if 0 ≤ e then (num, den <<< e.toNat) else (num <<< (-e).toNat, den)

/-- The exponent of the highest power of two that is at most `num / den`. -/
def floorLog2 (num den : Nat) : Int :=
  let e : Int := (num.log2 : Int) - den.log2
  let (n, d) := scaled num den e
  if d ≤ n then e else e - 1

/-- The highest of the 53 bits of a mantissa. -/
def leadingBit : Nat := 1 <<< 52

/-- The number nearest to `num / den`, or `none` when that lies beyond the largest finite one. -/
def nearest? (num den : Nat) : Option Binary64 :=
  if num = 0 then some zero
  else
    let e := max (floorLog2 num den - 52) (-1074)
    let (n, d) := scaled num den e
    let m := roundDiv n d
    let x : Binary64 := if m = 2 * leadingBit then ⟨leadingBit, e + 1⟩ else ⟨m, e⟩
    if x.exponent ≤ 971 then some x else none

def numerator (x : Binary64) : Nat :=
  x.mantissa <<< x.exponent.toNat

def denominator (x : Binary64) : Nat :=
  1 <<< (-x.exponent).toNat

def mul? (x y : Binary64) : Option Binary64 :=
  nearest? (x.numerator * y.numerator) (x.denominator * y.denominator)

def div? (x y : Binary64) : Option Binary64 :=
  nearest? (x.numerator * y.denominator) (x.denominator * y.numerator)

/-- The power of ten as rounded; `308` is the largest finite one. -/
def pow10? (k : Nat) : Option Binary64 :=
  nearest? (Nat.pow 10 k) 1

/-! ## Shortest decimal digits -/

/-- In quarters of the last binary place: the midpoint below, the number, and the midpoint above.
Below a power of two the neighbour is only half as far away. -/
def quarters (x : Binary64) : Nat × Nat × Nat :=
  let m := 4 * x.mantissa
  (if x.mantissa = leadingBit ∧ -1074 < x.exponent then m - 1 else m - 2, m, m + 2)

/-- Does `n * 10 ^ k` read back as `x`? -/
def readsBack (x : Binary64) (n : Nat) (k : Int) : Bool :=
  let (low, _, high) := x.quarters
  let e := x.exponent - 2
  let binary := Nat.pow 10 (-k).toNat <<< e.toNat
  let decimal := n * Nat.pow 10 k.toNat <<< (-e).toNat
  if x.mantissa % 2 = 0 then low * binary ≤ decimal && decimal ≤ high * binary
  else low * binary < decimal && decimal < high * binary

/-- The two multiples of `10 ^ k` around `x`, as multipliers, and whether the upper one is to be
preferred: it is nearer, or as near and even. -/
def around (x : Binary64) (k : Int) : Nat × Bool :=
  let num := x.numerator * Nat.pow 10 (-k).toNat
  let den := x.denominator * Nat.pow 10 k.toNat
  let below := num / den
  (below, roundDiv num den = below + 1)

/-- The multiple of `10 ^ k` next to `x` that reads back as `x`, if either neighbour does. -/
def onGrid? (x : Binary64) (k : Int) : Option Nat :=
  let (below, up) := x.around k
  match x.readsBack below k, x.readsBack (below + 1) k with
  | true, true => some (if up then below + 1 else below)
  | true, false => some below
  | false, true => some (below + 1)
  | false, false => none

/-- Tries the grids `10 ^ k`, `10 ^ (k - 1)`, … until one has a number that reads back. -/
def search (x : Binary64) (k : Int) : Nat → Decimal
  | 0 => ⟨(x.around k).1, k⟩
  | tries + 1 =>
    match x.onGrid? k with
    | some n => ⟨n, k⟩
    | none => search x (k - 1) tries

/-- An upper bound for the number of digits before the point. -/
def magnitude (x : Binary64) : Int :=
  let e := x.exponent + x.mantissa.log2
  e * 30103 / 100000 + 2

/-- Without trailing zeros; zero is `0 * 10 ^ 0`. -/
def shortest (x : Binary64) : Decimal :=
  if x.mantissa = 0 then ⟨0, 0⟩ else search x x.magnitude 20

end Binary64
end Scratchpad
