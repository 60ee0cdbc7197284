import Scratchpad.Text.Utf8

/-!
# Quoted names

How arguments are shown in messages. A name in a sentence is quoted as a shell would read it; a name
in front of a colon only when a shell would not take it as it stands. A value has an escape for
every byte that is not plain.
-/

namespace Scratchpad.Shell.Quoting

def isPrintable (b : UInt8) : Bool :=
  0x20 ≤ b && b < 0x7F

/-- The letter of a byte that has an escape of its own. -/
def escapeLetter? (b : UInt8) : Option Char :=
  match b.toNat with
  | 7 => some 'a'
  | 8 => some 'b'
  | 9 => some 't'
  | 10 => some 'n'
  | 11 => some 'v'
  | 12 => some 'f'
  | 13 => some 'r'
  | _ => none

/-- A byte that cannot be printed, as an escape. -/
def escaped (b : UInt8) : String :=
  match escapeLetter? b with
  | some c => String.ofList ['\\', c]
  | none =>
    let digits := Nat.toDigits 8 b.toNat
    String.ofList ('\\' :: List.replicate (3 - digits.length) '0' ++ digits)

def printed (b : UInt8) : String :=
  String.singleton (Char.ofNat b.toNat)

/-- A value in quotes. -/
def value (text : String) : String :=
  let show1 (b : UInt8) : String :=
    if b = 0x27 || b = 0x5C then "\\" ++ printed b
    else if isPrintable b then printed b
    else escaped b
  "'" ++ String.join ((Bytes.ofString text).map show1) ++ "'"

/-- Bytes that mean something to a shell wherever they stand. -/
def special : Bytes :=
  Bytes.ofString " !\"$&()*;<=>[^`|'\\?"

/-- Bytes that stand for themselves between double quotes. -/
def isHarmless (b : UInt8) : Bool :=
  isPrintable b && !(Bytes.ofString "!\"$&()*;<>[^`|\\?").contains b

/-- The inside of a quoted name; `escaping` says that the byte before was shown as an escape. -/
def inside : Bool → Bytes → String
  | escaping, [] => if escaping then "'" else ""
  | escaping, b :: rest =>
    if isPrintable b then
      (if escaping then "''" else "") ++ (if b = 0x27 then "'\\''" else printed b) ++
        inside false rest
    else (if escaping then "" else "'$'") ++ escaped b ++ inside true rest

/-- A name in quotes. -/
def always (text : String) : String :=
  let bytes := Bytes.ofString text
  if bytes.contains 0x27 && bytes.all isHarmless then "\"" ++ text ++ "\""
  else
    let shown := inside false bytes
    if bytes.getLast?.any fun b => !isPrintable b then "'" ++ shown
    else "'" ++ shown ++ "'"

/-- A word, in quotes if a shell needs them. -/
def word (text : String) : String :=
  let bytes := Bytes.ofString text
  let plain := bytes ≠ [] && bytes.all (fun b => isPrintable b && !special.contains b) &&
    !(bytes.head?.any fun b => b = 0x23 || b = 0x7E) && bytes ≠ [0x7B] && bytes ≠ [0x7D]
  if plain then text else always text

/-- A name, in quotes if a shell needs them or if it has a colon. -/
def name (text : String) : String :=
  if text.contains ':' then always text else word text

end Scratchpad.Shell.Quoting
