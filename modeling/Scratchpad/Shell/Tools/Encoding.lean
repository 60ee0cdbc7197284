import Scratchpad.Shell.Tools.Dump

/-!
# Encodings

The tools that write bytes as digits of some base and read them back.
-/

namespace Scratchpad.Shell.Tools

open Deed (complaint told)

/-- How bytes are written as digits: a group of bytes becomes a group of digits, the most significant
one first unless they are reversed. A group that is cut short is padded. -/
structure Encoding where
  digits : Bytes
  bits : Nat
  bytesInGroup : Nat
  digitsInGroup : Nat
  reversed : Bool := false

namespace Encoding

def base64 : Encoding where
  digits := Bytes.ofString "ABCDEFGHIJKLMNOPQRSTUVWXYZabcdefghijklmnopqrstuvwxyz0123456789+/"
  bits := 6
  bytesInGroup := 3
  digitsInGroup := 4

def base64url : Encoding :=
  { base64 with
    digits := Bytes.ofString "ABCDEFGHIJKLMNOPQRSTUVWXYZabcdefghijklmnopqrstuvwxyz0123456789-_" }

def base32 : Encoding where
  digits := Bytes.ofString "ABCDEFGHIJKLMNOPQRSTUVWXYZ234567"
  bits := 5
  bytesInGroup := 5
  digitsInGroup := 8

def base32hex : Encoding :=
  { base32 with digits := Bytes.ofString "0123456789ABCDEFGHIJKLMNOPQRSTUV" }

def base16 : Encoding where
  digits := Bytes.ofString "0123456789ABCDEF"
  bits := 4
  bytesInGroup := 1
  digitsInGroup := 2

def base2 : Encoding where
  digits := [0x30, 0x31]
  bits := 1
  bytesInGroup := 1
  digitsInGroup := 8

/-- The digits of a group of bytes. -/
def group (e : Encoding) (bytes : Bytes) : Bytes :=
  (if e.reversed then List.reverse else id) <|
  let word := (bytes ++ List.replicate (e.bytesInGroup - bytes.length) 0).foldl
    (fun (n : Nat) (b : UInt8) => n * 256 + b.toNat) 0
  let used := (8 * bytes.length + e.bits - 1) / e.bits
  (List.range e.digitsInGroup).map fun i =>
    if i < used then
      e.digits.getD ((word >>> (e.bits * (e.digitsInGroup - 1 - i))) % (1 <<< e.bits)) 0
    else 0x3D

def encode (e : Encoding) (bytes : Bytes) : Bytes :=
  (piecesOf e.bytesInGroup (bytes.length + 1) bytes).flatMap e.group

def value? (e : Encoding) (b : UInt8) : Option Nat :=
  e.digits.findIdx? (· = b)

/-- The bytes of a group of digits, or as many as can be read and `false`. -/
def ungroup (e : Encoding) (given : Bytes) : Bytes × Bool :=
  let digits := if e.reversed then given.reverse else given
  let kept := digits.takeWhile fun b => (e.value? b).isSome
  let values := kept.filterMap e.value?
  let word := (values ++ List.replicate (e.digitsInGroup - values.length) 0).foldl
    (fun n v => (n <<< e.bits) + v) 0
  let n := kept.length * e.bits / 8
  let bytes := (List.range n).map fun i =>
    UInt8.ofNat ((word >>> (8 * (e.bytesInGroup - 1 - i))) % 256)
  let padding := digits.drop kept.length
  let isWhole := digits.length = e.digitsInGroup && padding.all (· = 0x3D) &&
    (kept.length * e.bits) % 8 < e.bits && 0 < n
  (bytes, isWhole)

/-- The bytes that digits stand for, as far as they can be read, and whether all could be. -/
def decode (e : Encoding) (digits : Bytes) : Bytes × Bool :=
  let (groups, fine) := (piecesOf e.digitsInGroup (digits.length + 1) digits).foldl
    (fun (acc : List Bytes × Bool) piece =>
      if acc.2 then
        let (bytes, fine) := e.ungroup piece
        (bytes :: acc.1, fine)
      else acc) ([], true)
  (groups.reverse.flatten, fine)

end Encoding

/-- Writes its input in digits, or reads it. -/
def encodingTool (tool : String) (e : Encoding) (found : Options) (operands : List String)
    (s : Scene) : Deed :=
  match operands with
  | _ :: extra :: _ => extraOperand s tool extra
  | operands =>
    if found.has "decode" then
      finding s tool plainly operands fun f =>
        let kept := f.bytes.filter fun b =>
          b ≠ newline && (!found.has "ignore-garbage" || (e.value? b).isSome || b = 0x3D)
        let (bytes, fine) := e.decode kept
        let d := f.answer bytes
        if fine then d
        else { d with writes := d.writes ++ [told (tool ++ ": invalid input")], code := some 1 }
    else
      let text := (found.value? "wrap").getD "76"
      match decimal? text.toList with
      | none => complaint s (tool ++ ": invalid wrap size: " ++ Quoting.value text) 1
      | some width =>
        filter s tool plainly operands fun bytes =>
          let all := e.encode bytes
          if width = 0 then all else ofLines (piecesOf width (all.length + 1) all)

def encodingForms : List OptionForm :=
  [.flag 'd' "decode", .flag 'i' "ignore-garbage", .valued 'w' "wrap"]

def base64 (s : Scene) : Deed :=
  reading s "base64" 1 encodingForms fun found operands =>
    encodingTool "base64" .base64 found operands s

def base32 (s : Scene) : Deed :=
  reading s "base32" 1 encodingForms fun found operands =>
    encodingTool "base32" .base32 found operands s

/-- The encodings by the names of the options that choose them. -/
def encodings : List (String × Encoding) :=
  [("base64", .base64), ("base64url", .base64url), ("base32", .base32), ("base32hex", .base32hex),
    ("base16", .base16), ("base2msbf", .base2), ("base2lsbf", { Encoding.base2 with reversed := true })]

def basenc (s : Scene) : Deed :=
  reading s "basenc" 1 (encodingForms ++ encodings.map fun (name, _) => .longFlag name)
    fun found operands =>
    match found.reverse.findSome? fun (name, _) => encodings.lookup name with
    | none => complaint s (hint "basenc" "missing encoding type") 1
    | some e => encodingTool "basenc" e found operands s

end Scratchpad.Shell.Tools
