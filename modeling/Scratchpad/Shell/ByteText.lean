import Scratchpad.Text.Utf8

/-!
# Texts of bytes

A shell takes no notice of what its bytes mean: to it every byte is a character, the one whose code
the byte is. Texts of this kind are made from bytes and become bytes again without loss.
-/

namespace Scratchpad.Shell.ByteText

def ofBytes (bytes : Bytes) : List Char :=
  bytes.map fun b => Char.ofNat b.toNat

def toBytes (cs : List Char) : Bytes :=
  cs.map fun c => UInt8.ofNat c.toNat

/-- The bytes of a text that is given in characters. -/
def ofString (s : String) : List Char :=
  ofBytes (Bytes.ofString s)

/-- The characters that the bytes stand for. -/
def shown (cs : List Char) : String :=
  String.ofList (Text.Utf8.lossy (toBytes cs))

/-- The character of a code, or where it is none of the first 128, how it is written as an escape. -/
def ofCode (n : Nat) : List Char :=
  if n < 128 then [Char.ofNat n]
  else
    let digits := (Nat.toDigits 16 n).map Char.toUpper
    if n < 65536 then '\\' :: 'u' :: List.replicate (4 - digits.length) '0' ++ digits
    else '\\' :: 'U' :: List.replicate (8 - digits.length) '0' ++ digits

/-- What the digits in front of a text stand for in a base, of which only so many are taken, and the text behind it. -/
def numberIn (base digits : Nat) (cs : List Char) : Option (Nat × List Char) :=
  let value (c : Char) : Option Nat :=
    let n :=
      if c.isDigit then c.toNat - '0'.toNat
      else if c.isAlpha then c.toLower.toNat - 'a'.toNat + 10 else 99
    if n < base then some n else none
  let found := (cs.take digits).takeWhile fun c => (value c).isSome
  if found = [] then none
  else some (found.foldl (fun n c => base * n + (value c).getD 0) 0, cs.drop found.length)

end Scratchpad.Shell.ByteText
