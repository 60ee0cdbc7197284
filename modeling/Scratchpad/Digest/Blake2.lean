import Scratchpad.Digest.Blocks
import Scratchpad.Digest.Sha

/-!
# BLAKE2b

A digest of up to 64 bytes. Sixteen words, half of them from the digest so far and half of them fixed,
are mixed with the words of a block, which every round takes in another order.
-/

namespace Scratchpad.Digest.Blake2

/-- The words that everything begins with. -/
def start : List (BitVec 64) :=
  Sha2.sha512.initial

/-- The order in which a round takes the words of a block. -/
def orders : Array (Array Nat) :=
  #[#[0, 1, 2, 3, 4, 5, 6, 7, 8, 9, 10, 11, 12, 13, 14, 15],
    #[14, 10, 4, 8, 9, 15, 13, 6, 1, 12, 0, 2, 11, 7, 5, 3],
    #[11, 8, 12, 0, 5, 2, 15, 13, 10, 14, 3, 6, 7, 1, 9, 4],
    #[7, 9, 3, 1, 13, 12, 11, 14, 2, 6, 5, 10, 4, 0, 15, 8],
    #[9, 0, 5, 7, 2, 4, 10, 15, 14, 1, 11, 12, 6, 8, 3, 13],
    #[2, 12, 6, 10, 0, 11, 8, 3, 4, 13, 7, 5, 15, 14, 1, 9],
    #[12, 5, 1, 15, 14, 13, 4, 10, 0, 7, 6, 3, 9, 2, 8, 11],
    #[13, 11, 7, 14, 12, 1, 3, 9, 5, 0, 15, 4, 8, 6, 2, 10],
    #[6, 15, 14, 9, 11, 3, 0, 8, 12, 2, 13, 7, 1, 4, 10, 5],
    #[10, 2, 8, 4, 7, 6, 1, 5, 15, 11, 9, 14, 3, 12, 13, 0]]

/-- The places of four words that are mixed together: first columns, then diagonals. -/
def quarters : List (Nat × Nat × Nat × Nat) :=
  [(0, 4, 8, 12), (1, 5, 9, 13), (2, 6, 10, 14), (3, 7, 11, 15),
    (0, 5, 10, 15), (1, 6, 11, 12), (2, 7, 8, 13), (3, 4, 9, 14)]

/-- Mixes four words with two words of a block. -/
def mix (v : Array (BitVec 64)) (places : Nat × Nat × Nat × Nat) (x y : BitVec 64) :
    Array (BitVec 64) :=
  let (i, j, k, l) := places
  let get (n : Nat) : BitVec 64 := v.getD n 0
  let a := get i + get j + x
  let d := (get l ^^^ a).rotateRight 32
  let c := get k + d
  let b := (get j ^^^ c).rotateRight 24
  let a := a + b + y
  let d := (d ^^^ a).rotateRight 16
  let c := c + d
  let b := (b ^^^ c).rotateRight 63
  (((v.setIfInBounds i a).setIfInBounds j b).setIfInBounds k c).setIfInBounds l d

/-- One round with the words of a block. -/
def round (words v : Array (BitVec 64)) (n : Nat) : Array (BitVec 64) :=
  let order := orders.getD (n % 10) #[]
  let word (i : Nat) : BitVec 64 := words.getD (order.getD i 0) 0
  quarters.zipIdx.foldl (fun v (places, i) => mix v places (word (2 * i)) (word (2 * i + 1))) v

/-- Takes in a block, after which so many bytes have been read. -/
def absorb (h : List (BitVec 64)) (block : Bytes) (count : Nat) (isLast : Bool) : List (BitVec 64) :=
  let words := ((piecesOf 8 block).map littleWord).toArray
  let tail := start.zipIdx.map fun (w, i) =>
    if i = 4 then w ^^^ BitVec.ofNat 64 count
    else if i = 5 then w ^^^ BitVec.ofNat 64 (count >>> 64)
    else if i = 6 && isLast then ~~~w
    else w
  let v := (List.range 12).foldl (round words) (h ++ tail).toArray
  h.zipIdx.map fun (w, i) => w ^^^ v.getD i 0 ^^^ v.getD (i + 8) 0

/-- The digest of some size, which is at most 64 bytes. -/
def digest (size : Nat) (bytes : Bytes) : Bytes :=
  let blocks := if bytes = [] then [[]] else piecesOf 128 bytes
  let first := start.zipIdx.map fun (w, i) =>
    if i = 0 then w ^^^ 0x01010000 ^^^ BitVec.ofNat 64 size else w
  let h := blocks.zipIdx.foldl (fun h (block, i) =>
    let isLast := i + 1 = blocks.length
    let count := if isLast then bytes.length else 128 * (i + 1)
    absorb h (block ++ List.replicate (128 - block.length) 0) count isLast) first
  (h.flatMap fun w => littleBytes 8 w.toNat).take size

end Scratchpad.Digest.Blake2
