import Scratchpad.Shell.Format
import Scratchpad.Shell.Tools.Basic

/-!
# Values of the record language

Programs of the record language work on values that are numbers and texts at once. A text that comes
from outside passes for a number where it looks like one. Whole numbers are written without a point if
they are not too large, and others as a format says.
-/

namespace Scratchpad.Shell.Awk

/-- A value: nothing yet, a number, a text, or a text from outside. -/
inductive Value
  | unset
  | number (x : Floating)
  | text (bytes : Bytes)
  | input (bytes : Bytes)

def charsOf (bytes : Bytes) : List Char :=
  bytes.map fun b => Char.ofNat b.toNat

/-- The number that a text begins with. -/
def leadingNumber (bytes : Bytes) : Floating :=
  match Floating.read? .double (charsOf bytes) with
  | some (x, _) => x
  | none => .zero

def isBlank (b : UInt8) : Bool :=
  b = 0x20 || b = 9 || (11 ≤ b && b ≤ 13)

/-- The number that all of a text is, but for blanks. A number begins with a digit, a sign or a point and
ends with a digit or a point, so that no word is one. -/
def wholeNumber? (bytes : Bytes) : Option Floating :=
  let core := (bytes.dropWhile isBlank).reverse.dropWhile isBlank
  let ends (b : UInt8) : Bool := Tools.isDigit b || b = 0x2E
  if !core.head?.any ends then none
  else
    let core := core.reverse
    if !core.head?.any (fun b => ends b || b = 0x2B || b = 0x2D) then none
    else
      match Floating.read? .double (charsOf core) with
      | some (x, []) => some x
      | _ => none

/-- The largest whole number that is written with all its digits. -/
def mostWhole : Int := 2147483647

/-- A whole number for a directive or a place: what is too large is as large as can be. -/
def wholeOf (x : Floating) : Int :=
  match x with
  | .nan _ => -mostWhole
  | .infinite negative => if negative then -mostWhole else mostWhole
  | x => max (-mostWhole) (min ((x.truncate?).getD 0) mostWhole)

/-- A whole number without a sign. -/
def unsignedOf (x : Floating) : Nat :=
  match x with
  | .nan _ => 0
  | .infinite negative => if negative then 0 else 4294967295
  | x => min ((x.truncate?).getD 0).toNat 4294967295

/-- A number by a directive for floating ones. -/
def showFloating (layout : Format.Layout) (letter : Char) (x : Floating) : Bytes :=
  (Format.floating? layout 53 letter x).getD []

/-- The directive that a format consists of, if it is one for floating numbers. -/
def numberDirective? (format : Bytes) : Option (Format.Layout × Char) :=
  match charsOf format with
  | '%' :: cs =>
    let p : Format.Progress := ⟨[], [], false, false, false, []⟩
    match Format.layout .broad p cs with
    | (layout, _, _, [letter]) =>
      if ['e', 'f', 'g', 'E', 'F', 'G'].contains letter then some (layout, letter) else none
    | _ => none
  | _ => none

/-- A number as text. -/
def showNumber (format : Bytes) (x : Floating) : Bytes :=
  let whole? := x.integer?.filter fun n => n.natAbs ≤ mostWhole.toNat
  match whole? with
  | some n => Bytes.ofString (toString n)
  | none =>
    match numberDirective? format with
    | some (layout, letter) => showFloating layout letter x
    | none => showFloating { Format.Layout.plain with precision := some 6 } 'g' x

namespace Value

def ofNat (n : Nat) : Value := .number (.ofInt .double n)

def ofInt (n : Int) : Value := .number (.ofInt .double n)

def ofBool (b : Bool) : Value := .ofNat (if b then 1 else 0)

def toNumber : Value → Floating
  | .unset => .zero
  | .number x => x
  | .text bytes | .input bytes => leadingNumber bytes

/-- The value as text; `format` is for numbers that are not whole. -/
def toText (format : Bytes) : Value → Bytes
  | .unset => []
  | .number x => showNumber format x
  | .text bytes | .input bytes => bytes

/-- What a value is as a number, if it is one or passes for one. -/
def numeric? : Value → Option Floating
  | .unset => some .zero
  | .number x => some x
  | .text _ => none
  | .input bytes => wholeNumber? bytes

def isTrue : Value → Bool
  | .unset => false
  | .number x => !x.isZero
  | .text bytes => bytes ≠ []
  | .input bytes =>
    match wholeNumber? bytes with
    | some x => !x.isZero
    | none => bytes ≠ []

/-- The order of two values: as numbers if both are, and else as texts. Nothing is in order with what
is no number. -/
def compare? (format : Bytes) (a b : Value) : Option Ordering :=
  match a.numeric?, b.numeric? with
  | some x, some y => x.compare? y
  | _, _ => some (compare (a.toText format) (b.toText format))

end Value
end Scratchpad.Shell.Awk
