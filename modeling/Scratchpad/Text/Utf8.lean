/-!
# UTF-8 in bytes that need not be text

`scan` reads bytes into one entry per character, with `none` for every maximal invalid part: the
longest run of bytes that begins some encoding but does not complete it, or one byte that begins
none. Strict decoding asks that there be no such part, lossy decoding shows each of them as
`U+FFFD`. An invalid part never swallows an ASCII byte, so text formats built from ASCII marks can
be read over the result of `scan`.
-/

namespace Scratchpad

abbrev Bytes := List UInt8

namespace Text.Utf8

def encode (cs : List Char) : Bytes :=
  cs.flatMap String.utf8EncodeChar

/-- A character under way: `more` bytes are owed, the next of them in `low`–`high`. -/
structure Pending where
  more : Nat
  low : Nat
  high : Nat
  code : Nat
deriving DecidableEq, Repr

/-- What a byte says where a character begins. -/
inductive Lead
  | whole (c : Char)
  | opens (p : Pending)
  | stray
deriving DecidableEq, Repr

/-- The bounds on the second byte rule out overlong forms, surrogates and codes past `U+10FFFF`. -/
def lead (b : UInt8) : Lead :=
  let n := b.toNat
  if n < 0x80 then .whole (Char.ofNat n)
  else if n < 0xC2 then .stray
  else if n < 0xE0 then .opens ⟨1, 0x80, 0xBF, n - 0xC0⟩
  else if n = 0xE0 then .opens ⟨2, 0xA0, 0xBF, 0⟩
  else if n = 0xED then .opens ⟨2, 0x80, 0x9F, 13⟩
  else if n < 0xF0 then .opens ⟨2, 0x80, 0xBF, n - 0xE0⟩
  else if n = 0xF0 then .opens ⟨3, 0x90, 0xBF, 0⟩
  else if n < 0xF4 then .opens ⟨3, 0x80, 0xBF, n - 0xF0⟩
  else if n = 0xF4 then .opens ⟨3, 0x80, 0x8F, 4⟩
  else .stray

/-- The characters read so far, last one first, and the one under way. -/
structure Scanner where
  units : List (Option Char)
  pending : Option Pending

namespace Scanner

def start : Scanner := ⟨[], none⟩

def begin (units : List (Option Char)) (b : UInt8) : Scanner :=
  match lead b with
  | .whole c => ⟨some c :: units, none⟩
  | .opens p => ⟨units, some p⟩
  | .stray => ⟨none :: units, none⟩

def step (s : Scanner) (b : UInt8) : Scanner :=
  match s.pending with
  | none => begin s.units b
  | some p =>
    if p.low ≤ b.toNat ∧ b.toNat ≤ p.high then
      let code := p.code * 64 + b.toNat % 64
      if p.more = 1 then ⟨some (Char.ofNat code) :: s.units, none⟩
      else ⟨s.units, some ⟨p.more - 1, 0x80, 0xBF, code⟩⟩
    else begin (none :: s.units) b

def finish (s : Scanner) : List (Option Char) :=
  match s.pending with
  | none => s.units.reverse
  | some _ => (none :: s.units).reverse

end Scanner

def scan (bs : Bytes) : List (Option Char) :=
  (bs.foldl Scanner.step Scanner.start).finish

/-- The text that the bytes encode, if they encode one. -/
def decode? (bs : Bytes) : Option (List Char) :=
  let units := scan bs
  if units.all Option.isSome then some (units.filterMap id) else none

/-- Every maximal invalid part reads as `U+FFFD`. -/
def lossy (bs : Bytes) : List Char :=
  (scan bs).map (·.getD '\uFFFD')

/-! ## Faults -/

/-- Where bytes stop being text, and how long the invalid part there is; there is no length where
the bytes end before the part is complete. -/
structure Fault where
  index : Nat
  length : Option Nat
deriving DecidableEq, Repr

def Fault.text (f : Fault) : String :=
  match f.length with
  | some n => "invalid utf-8 sequence of " ++ n.repr ++ " bytes from index " ++ f.index.repr
  | none => "incomplete utf-8 byte sequence from index " ++ f.index.repr

/-- The length of an invalid part of which `read` bytes have come and `p` is still owed. -/
def owedLength? (read : Nat) (p : Pending) : Bytes → Option Nat
  | [] => none
  | b :: rest =>
    if p.low ≤ b.toNat ∧ b.toNat ≤ p.high then
      owedLength? (read + 1) ⟨p.more - 1, 0x80, 0xBF, p.code⟩ rest
    else some read

/-- The length of the invalid part in front of some bytes. -/
def invalidLength? : Bytes → Option Nat
  | [] => none
  | b :: rest =>
    match lead b with
    | .opens p => owedLength? 1 p rest
    | _ => some 1

/-- The first fault in some bytes that are no text. -/
def fault? (bs : Bytes) : Option Fault :=
  let units := scan bs
  if units.all Option.isSome then none
  else
    let index := (encode ((units.takeWhile Option.isSome).filterMap id)).length
    some ⟨index, invalidLength? (bs.drop index)⟩

end Text.Utf8

/-- The UTF-8 bytes of a text. -/
def Bytes.ofString (s : String) : Bytes :=
  Text.Utf8.encode s.toList

/-- The text with these UTF-8 bytes, if there is one. -/
def Bytes.text? (bs : Bytes) : Option String :=
  (Text.Utf8.decode? bs).map String.ofList

end Scratchpad
