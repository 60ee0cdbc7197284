import Scratchpad.Shell.Tools.Basic

/-!
# Prime factors

The tool that takes numbers apart. Small factors are found by division; what is left is prime when
it passes the tests of primality, and otherwise has a divisor that two runs of a walk meet at.
-/

namespace Scratchpad.Shell.Tools

namespace Factoring

/-- A power of a number by a modulus. -/
def powerMod (m : Nat) (base exponent : Nat) : Nat :=
  if exponent = 0 then 1 % m
  else
    let half := powerMod m (base * base % m) (exponent / 2)
    if exponent % 2 = 1 then half * base % m else half
termination_by exponent
decreasing_by omega

/-- The odd part of a number and how often it was halved; the fuel bounds the halvings. -/
def halved : Nat → Nat → Nat → Nat × Nat
  | 0, n, k => (n, k)
  | fuel + 1, n, k => if n % 2 = 0 then halved fuel (n / 2) (k + 1) else (n, k)

/-- Is some square among the next ones of a number one less than the modulus? -/
def meetsLast (m : Nat) : Nat → Nat → Bool
  | 0, _ => false
  | k + 1, x => x = m - 1 || meetsLast m k (x * x % m)

/-- The bases that tell every composite number of less than eighty bits, and all others but for a
chance that is never met. -/
def bases : List Nat := [2, 3, 5, 7, 11, 13, 17, 19, 23, 29, 31, 37, 41]

/-- Is an odd number above all bases prime? -/
def isPrime (n : Nat) : Bool :=
  let (odd, k) := halved n.log2 (n - 1) 0
  bases.all fun base =>
    let x := powerMod n base odd
    x = 1 || meetsLast n k x

/-- One step of a walk through the remainders. -/
def walk (n c x : Nat) : Nat :=
  (x * x + c) % n

/-- A divisor that a walk and another of twice its speed meet at; the fuel bounds their steps. -/
def meet? (n c : Nat) : Nat → Nat → Nat → Option Nat
  | 0, _, _ => none
  | fuel + 1, x, y =>
    let x := walk n c x
    let y := walk n c (walk n c y)
    let d := Nat.gcd (if x < y then y - x else x - y) n
    if d = n then none
    else if 1 < d then some d
    else meet? n c fuel x y

/-- A divisor of a composite number that is neither one nor the number. -/
def divisor? (n : Nat) : Option Nat :=
  [1, 3, 5].findSome? fun c => meet? n c 400000 2 2

/-- The prime factors of a number without small ones; the fuel bounds how often it is divided. -/
def split : Nat → Nat → List Nat
  | 0, n => if n ≤ 1 then [] else [n]
  | fuel + 1, n =>
    if n ≤ 1 then []
    else if isPrime n then [n]
    else
      match divisor? n with
      | none => [n]
      | some d => split fuel d ++ split fuel (n / d)

/-- Takes out the factors from `d` on, up to a bound for the tries, and says what is left. -/
def takeSmall : Nat → Nat → Nat → List Nat → List Nat × Nat
  | 0, _, n, found => (found, n)
  | tries + 1, d, n, found =>
    if n < d * d then (if 1 < n then n :: found else found, 1)
    else if n % d = 0 then takeSmall tries d (n / d) (d :: found)
    else takeSmall tries (if d = 2 then 3 else d + 2) n found

/-- The prime factors of a number, in order. -/
def factors (n : Nat) : List Nat :=
  if n = 0 then []
  else
    let (small, rest) := takeSmall (1000 + n.log2) 2 n []
    (small ++ split rest.log2 rest).mergeSort (· ≤ ·)

end Factoring

/-- Shows the prime factors of numbers, and in front of them what is no number. -/
def factor (s : Scene) : Deed :=
  reading s "factor" 1 [] fun _ operands =>
    let one (word : String) : Outlet × Bytes :=
      let cs := word.toList.dropWhile (· = ' ')
      let cs := if cs.head? = some '+' then cs.drop 1 else cs
      match decimal? cs with
      | none =>
        Deed.told ("factor: " ++ Quoting.value word ++ " is not a valid positive integer")
      | some n =>
        (.out, Bytes.ofString
          (" ".intercalate ((n.repr ++ ":") :: (Factoring.factors n).map Nat.repr) ++ "\n"))
    let answer (words : List String) (unread : Flow) : Deed :=
      let (faults, shown) := (words.map one).partition (·.1 = .err)
      { Deed.ofWrites s (faults ++ shown) (if faults.isEmpty then 0 else 1) with unread }
    if operands.isEmpty then
      finding s "factor" plainly [] fun f =>
        let isMark (b : UInt8) : Bool := isSpace b || b = 0
        let words := (f.bytes.splitBy fun a b => isMark a = isMark b).filter fun part =>
          part.head?.any fun b => !isMark b
        answer (words.map fun w => String.ofList (Text.Utf8.lossy w)) f.unread
    else answer operands s.input

end Scratchpad.Shell.Tools
