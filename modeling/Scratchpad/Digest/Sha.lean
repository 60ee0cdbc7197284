import Scratchpad.Digest.Blocks

/-!
# Secure hashes

SHA-1 is a digest of twenty bytes: a block is spread over eighty words, which are mixed into five.

SHA-2 is a family of digests with words of 32 or 64 bits. Their constants are the first bits behind
the point of the roots of primes: of cube roots for the steps, and of square roots for the words at
the start.

SM3 is a digest of 32 bytes. A block is spread over 68 words, which are mixed into eight.

MD5 is an older digest of the kind, of sixteen bytes. A block of sixteen words is mixed into four
words in sixty-four steps, each of which adds one word of the block and one constant.
-/

namespace Scratchpad.Digest.Sha1

structure State where
  a : BitVec 32
  b : BitVec 32
  c : BitVec 32
  d : BitVec 32
  e : BitVec 32

def initial : State :=
  ⟨0x67452301, 0xefcdab89, 0x98badcfe, 0x10325476, 0xc3d2e1f0⟩

/-- The words of a block and those that follow from them. -/
def schedule (block : Bytes) : Array (BitVec 32) :=
  (List.range 64).foldl (fun (words : Array (BitVec 32)) i =>
    let at' (back : Nat) : BitVec 32 := words.getD (16 + i - back) 0
    words.push ((at' 3 ^^^ at' 8 ^^^ at' 14 ^^^ at' 16).rotateLeft 1))
    ((piecesOf 4 block).map bigWord).toArray

/-- What a round makes of three words, and its constant. -/
def mix (s : State) (i : Nat) : BitVec 32 × BitVec 32 :=
  match i / 20 with
  | 0 => ((s.b &&& s.c) ||| (~~~s.b &&& s.d), 0x5a827999)
  | 1 => (s.b ^^^ s.c ^^^ s.d, 0x6ed9eba1)
  | 2 => ((s.b &&& s.c) ||| (s.b &&& s.d) ||| (s.c &&& s.d), 0x8f1bbcdc)
  | _ => (s.b ^^^ s.c ^^^ s.d, 0xca62c1d6)

def step (words : Array (BitVec 32)) (s : State) (i : Nat) : State :=
  let (f, k) := mix s i
  ⟨s.a.rotateLeft 5 + f + s.e + k + words.getD i 0, s.a, s.b.rotateLeft 30, s.c, s.d⟩

def absorb (s : State) (block : Bytes) : State :=
  let t := (List.range 80).foldl (step (schedule block)) s
  ⟨s.a + t.a, s.b + t.b, s.c + t.c, s.d + t.d, s.e + t.e⟩

def digest (bytes : Bytes) : Bytes :=
  let s := (piecesOf 64 (padded 64 8 true bytes)).foldl absorb initial
  [s.a, s.b, s.c, s.d, s.e].flatMap fun w => bigBytes 4 w.toNat

end Scratchpad.Digest.Sha1

namespace Scratchpad.Digest.Sha2

/-- The largest number whose power is at most `n`, by halves; `high` is too large. -/
def rootBelow (power n : Nat) : Nat → Nat → Nat → Nat
  | 0, low, _ => low
  | fuel + 1, low, high =>
    if high ≤ low + 1 then low
    else
      let mid := (low + high) / 2
      if Nat.pow mid power ≤ n then rootBelow power n fuel mid high
      else rootBelow power n fuel low mid

/-- The first `bits` bits behind the point of a root. -/
def rootBits (power bits n : Nat) : Nat :=
  rootBelow power (n <<< (power * bits)) (bits + 16) 0 (1 <<< (bits + 12)) % (1 <<< bits)

def isPrime (n : Nat) : Bool :=
  2 ≤ n && (List.range n).all fun d => d < 2 || n % d ≠ 0

/-- The first eighty primes. -/
def primes : List Nat :=
  ((List.range 410).filter isPrime).take 80

/-- What tells the members of the family apart: the bits of a word, the number of steps, the
rotations, the words at the start and the size of the digest. The last of the small rotations is a
shift. -/
structure Variant (w : Nat) where
  steps : Nat
  big0 : Nat × Nat × Nat
  big1 : Nat × Nat × Nat
  small0 : Nat × Nat × Nat
  small1 : Nat × Nat × Nat
  initial : List (BitVec w)
  size : Nat

def constants (w steps : Nat) : Array (BitVec w) :=
  ((primes.take steps).map fun p => BitVec.ofNat w (rootBits 3 w p)).toArray

def rootsOf (w : Nat) (ps : List Nat) : List (BitVec w) :=
  ps.map fun p => BitVec.ofNat w (rootBits 2 w p)

def small (size : Nat) (initial : List (BitVec 32)) : Variant 32 where
  steps := 64
  big0 := (2, 13, 22)
  big1 := (6, 11, 25)
  small0 := (7, 18, 3)
  small1 := (17, 19, 10)
  initial
  size

def large (size : Nat) (initial : List (BitVec 64)) : Variant 64 where
  steps := 80
  big0 := (28, 34, 39)
  big1 := (14, 18, 41)
  small0 := (1, 8, 7)
  small1 := (19, 61, 6)
  initial
  size

def sha256 : Variant 32 := small 32 (rootsOf 32 (primes.take 8))

/-- The second 32 bits of the square roots of the ninth to the sixteenth prime. -/
def sha224 : Variant 32 :=
  small 28 ((rootsOf 64 ((primes.drop 8).take 8)).map fun x => x.setWidth 32)

def sha512 : Variant 64 := large 64 (rootsOf 64 (primes.take 8))

def sha384 : Variant 64 := large 48 (rootsOf 64 ((primes.drop 8).take 8))

def rotations {w : Nat} (amounts : Nat × Nat × Nat) (x : BitVec w) : BitVec w :=
  x.rotateRight amounts.1 ^^^ x.rotateRight amounts.2.1 ^^^ x.rotateRight amounts.2.2

def shifts {w : Nat} (amounts : Nat × Nat × Nat) (x : BitVec w) : BitVec w :=
  x.rotateRight amounts.1 ^^^ x.rotateRight amounts.2.1 ^^^ (x >>> amounts.2.2)

/-- The words of a block and those that follow from them. -/
def schedule {w : Nat} (v : Variant w) (block : Bytes) : Array (BitVec w) :=
  (List.range (v.steps - 16)).foldl (fun (words : Array (BitVec w)) i =>
    let at' (back : Nat) : BitVec w := words.getD (16 + i - back) 0
    words.push (shifts v.small1 (at' 2) + at' 7 + shifts v.small0 (at' 15) + at' 16))
    ((piecesOf (w / 8) block).map bigWord).toArray

/-- The eight words that are mixed. -/
structure State (w : Nat) where
  a : BitVec w
  b : BitVec w
  c : BitVec w
  d : BitVec w
  e : BitVec w
  f : BitVec w
  g : BitVec w
  h : BitVec w

def State.toList {w : Nat} (s : State w) : List (BitVec w) :=
  [s.a, s.b, s.c, s.d, s.e, s.f, s.g, s.h]

def State.ofList {w : Nat} (l : List (BitVec w)) : State w :=
  ⟨l.getD 0 0, l.getD 1 0, l.getD 2 0, l.getD 3 0, l.getD 4 0, l.getD 5 0, l.getD 6 0, l.getD 7 0⟩

def step {w : Nat} (v : Variant w) (s : State w) (added : BitVec w) : State w :=
  let choice := (s.e &&& s.f) ^^^ (~~~s.e &&& s.g)
  let majority := (s.a &&& s.b) ^^^ (s.a &&& s.c) ^^^ (s.b &&& s.c)
  let t := s.h + rotations v.big1 s.e + choice + added
  ⟨t + rotations v.big0 s.a + majority, s.a, s.b, s.c, s.d + t, s.e, s.f, s.g⟩

def absorb {w : Nat} (v : Variant w) (ks : Array (BitVec w)) (s : State w) (block : Bytes) :
    State w :=
  let words := schedule v block
  let t := (List.range v.steps).foldl (fun t i => step v t (ks.getD i 0 + words.getD i 0)) s
  .ofList ((s.toList.zip t.toList).map fun (x, y) => x + y)

def digest {w : Nat} (v : Variant w) (bytes : Bytes) : Bytes :=
  let blocks := piecesOf (2 * w) (padded (2 * w) (w / 4) true bytes)
  let s := blocks.foldl (absorb v (constants w v.steps)) (.ofList v.initial)
  (s.toList.flatMap fun x => bigBytes (w / 8) x.toNat).take v.size

end Scratchpad.Digest.Sha2

namespace Scratchpad.Digest.Sm3

structure State where
  a : BitVec 32
  b : BitVec 32
  c : BitVec 32
  d : BitVec 32
  e : BitVec 32
  f : BitVec 32
  g : BitVec 32
  h : BitVec 32

def initial : State :=
  ⟨0x7380166f, 0x4914b2b9, 0x172442d7, 0xda8a0600, 0xa96f30bc, 0x163138aa, 0xe38dee4d, 0xb0fb0e4e⟩

/-- The words of a block and those that follow from them. -/
def schedule (block : Bytes) : Array (BitVec 32) :=
  (List.range 52).foldl (fun (words : Array (BitVec 32)) i =>
    let at' (back : Nat) : BitVec 32 := words.getD (16 + i - back) 0
    let x := at' 16 ^^^ at' 9 ^^^ (at' 3).rotateLeft 15
    let x := x ^^^ x.rotateLeft 15 ^^^ x.rotateLeft 23
    words.push (x ^^^ (at' 13).rotateLeft 7 ^^^ at' 6))
    ((piecesOf 4 block).map bigWord).toArray

def step (words : Array (BitVec 32)) (s : State) (i : Nat) : State :=
  let word (i : Nat) : BitVec 32 := words.getD i 0
  let isEarly := i < 16
  let constant : BitVec 32 := if isEarly then 0x79cc4519 else 0x7a879d8a
  let first := (s.a.rotateLeft 12 + s.e + constant.rotateLeft (i % 32)).rotateLeft 7
  let second := first ^^^ s.a.rotateLeft 12
  let majority :=
    if isEarly then s.a ^^^ s.b ^^^ s.c else (s.a &&& s.b) ||| (s.a &&& s.c) ||| (s.b &&& s.c)
  let choice :=
    if isEarly then s.e ^^^ s.f ^^^ s.g else (s.e &&& s.f) ||| (~~~s.e &&& s.g)
  let t := majority + s.d + second + (word i ^^^ word (i + 4))
  let u := choice + s.h + first + word i
  ⟨t, s.a, s.b.rotateLeft 9, s.c, u ^^^ u.rotateLeft 9 ^^^ u.rotateLeft 17, s.e, s.f.rotateLeft 19, s.g⟩

def absorb (s : State) (block : Bytes) : State :=
  let t := (List.range 64).foldl (step (schedule block)) s
  ⟨s.a ^^^ t.a, s.b ^^^ t.b, s.c ^^^ t.c, s.d ^^^ t.d, s.e ^^^ t.e, s.f ^^^ t.f, s.g ^^^ t.g,
    s.h ^^^ t.h⟩

def digest (bytes : Bytes) : Bytes :=
  let s := (piecesOf 64 (padded 64 8 true bytes)).foldl absorb initial
  [s.a, s.b, s.c, s.d, s.e, s.f, s.g, s.h].flatMap fun w => bigBytes 4 w.toNat

end Scratchpad.Digest.Sm3

namespace Scratchpad.Digest.Md5

def constants : List (BitVec 32) :=
  [0xd76aa478, 0xe8c7b756, 0x242070db, 0xc1bdceee, 0xf57c0faf, 0x4787c62a,
    0xa8304613, 0xfd469501, 0x698098d8, 0x8b44f7af, 0xffff5bb1, 0x895cd7be,
    0x6b901122, 0xfd987193, 0xa679438e, 0x49b40821, 0xf61e2562, 0xc040b340,
    0x265e5a51, 0xe9b6c7aa, 0xd62f105d, 0x02441453, 0xd8a1e681, 0xe7d3fbc8,
    0x21e1cde6, 0xc33707d6, 0xf4d50d87, 0x455a14ed, 0xa9e3e905, 0xfcefa3f8,
    0x676f02d9, 0x8d2a4c8a, 0xfffa3942, 0x8771f681, 0x6d9d6122, 0xfde5380c,
    0xa4beea44, 0x4bdecfa9, 0xf6bb4b60, 0xbebfbc70, 0x289b7ec6, 0xeaa127fa,
    0xd4ef3085, 0x04881d05, 0xd9d4d039, 0xe6db99e5, 0x1fa27cf8, 0xc4ac5665,
    0xf4292244, 0x432aff97, 0xab9423a7, 0xfc93a039, 0x655b59c3, 0x8f0ccc92,
    0xffeff47d, 0x85845dd1, 0x6fa87e4f, 0xfe2ce6e0, 0xa3014314, 0x4e0811a1,
    0xf7537e82, 0xbd3af235, 0x2ad7d2bb, 0xeb86d391].map (BitVec.ofNat 32)

/-- By how many bits the sum of a step is rotated, four amounts for each of the four rounds. -/
def amounts : List Nat :=
  [7, 12, 17, 22, 5, 9, 14, 20, 4, 11, 16, 23, 6, 10, 15, 21]

structure State where
  a : BitVec 32
  b : BitVec 32
  c : BitVec 32
  d : BitVec 32

def initial : State :=
  ⟨0x67452301, 0xefcdab89, 0x98badcfe, 0x10325476⟩

/-- What a round makes of three words, and which word of the block a step adds. -/
def mix (s : State) (i : Nat) : BitVec 32 × Nat :=
  match i / 16 with
  | 0 => ((s.b &&& s.c) ||| (~~~s.b &&& s.d), i)
  | 1 => ((s.d &&& s.b) ||| (~~~s.d &&& s.c), (5 * i + 1) % 16)
  | 2 => (s.b ^^^ s.c ^^^ s.d, (3 * i + 5) % 16)
  | _ => (s.c ^^^ (s.b ||| ~~~s.d), 7 * i % 16)

def step (block : Array (BitVec 32)) (s : State) (constant : BitVec 32 × Nat) : State :=
  let (k, i) := constant
  let (f, g) := mix s i
  let sum := s.a + f + k + block.getD g 0
  ⟨s.d, s.b + sum.rotateLeft (amounts.getD (i / 16 * 4 + i % 4) 0), s.b, s.c⟩

def absorb (s : State) (block : Bytes) : State :=
  let words := ((piecesOf 4 block).map littleWord).toArray
  let t := constants.zipIdx.foldl (step words) s
  ⟨s.a + t.a, s.b + t.b, s.c + t.c, s.d + t.d⟩

def digest (bytes : Bytes) : Bytes :=
  let s := (piecesOf 64 (padded 64 8 false bytes)).foldl absorb initial
  [s.a, s.b, s.c, s.d].flatMap fun w => littleBytes 4 w.toNat

end Scratchpad.Digest.Md5
