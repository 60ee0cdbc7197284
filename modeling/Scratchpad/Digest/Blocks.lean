import Scratchpad.Text.Utf8

/-!
# Blocks and checksums

A digest is taken of blocks. The bytes are filled up to whole blocks by a mark, zeros, and their
number of bits, and a block is read as words. Checksums need no blocks: they are numbers that tell
whether bytes were changed by chance.
-/

namespace Scratchpad.Digest

/-- Pieces of some length. -/
def piecesOf (size : Nat) (bytes : Bytes) : List Bytes :=
  go (bytes.length / max size 1 + 1) bytes
where
  go : Nat → Bytes → List Bytes
    | 0, _ => []
    | _, [] => []
    | fuel + 1, bytes => bytes.take size :: go fuel (bytes.drop size)

/-- A number as bytes, the least significant one first. -/
def littleBytes (size n : Nat) : Bytes :=
  (List.range size).map fun i => UInt8.ofNat ((n >>> (8 * i)) % 256)

def bigBytes (size n : Nat) : Bytes :=
  (littleBytes size n).reverse

/-- The word whose least significant byte comes first. -/
def littleWord {w : Nat} (bytes : Bytes) : BitVec w :=
  .ofNat w (bytes.foldr (fun b n => b.toNat + 256 * n) 0)

def bigWord {w : Nat} (bytes : Bytes) : BitVec w :=
  .ofNat w (bytes.foldl (fun n b => n * 256 + b.toNat) 0)

/-- Bytes filled up to blocks, with the number of bits at the end in `lengthSize` bytes. -/
def padded (blockSize lengthSize : Nat) (bigEndian : Bool) (bytes : Bytes) : Bytes :=
  let used := (bytes.length + 1 + lengthSize) % blockSize
  let zeros := (blockSize - used) % blockSize
  bytes ++ 0x80 :: List.replicate zeros 0 ++
    (if bigEndian then bigBytes else littleBytes) lengthSize (8 * bytes.length)

/-! ## Checksums

A cyclic redundancy check of 32 bits that takes the number of bytes in as well, and two sums of 16
bits.
-/

/-- The remainder for one byte, by eight divisions by the polynomial. -/
def crcByte (b : BitVec 32) : BitVec 32 :=
  (List.range 8).foldl (fun crc _ =>
    if crc.msb then (crc <<< 1) ^^^ 0x04c11db7 else crc <<< 1) (b <<< 24)

def crcTable : Array (BitVec 32) :=
  ((List.range 256).map fun n => crcByte (.ofNat 32 n)).toArray

def crcStep (crc : BitVec 32) (b : UInt8) : BitVec 32 :=
  (crc <<< 8) ^^^ crcTable.getD ((crc >>> 24).toNat ^^^ b.toNat) 0

/-- The bytes of a number, the least significant one first, without those that are zero at the end. -/
def lengthBytes (n : Nat) : Bytes :=
  ((littleBytes 8 n).reverse.dropWhile (· = 0)).reverse

def crc (bytes : Bytes) : Nat :=
  (~~~((bytes ++ lengthBytes bytes.length).foldl crcStep 0)).toNat

/-- A sum that is rotated by one bit before each byte. -/
def rotatedSum (bytes : Bytes) : Nat :=
  (bytes.foldl (fun (sum : BitVec 16) b => sum.rotateRight 1 + .ofNat 16 b.toNat) 0).toNat

/-- A sum whose carries are added to it. -/
def foldedSum (bytes : Bytes) : Nat :=
  let sum := bytes.foldl (fun n b => n + b.toNat) 0 % 4294967296
  let once := sum % 65536 + sum / 65536
  once % 65536 + once / 65536

end Scratchpad.Digest
