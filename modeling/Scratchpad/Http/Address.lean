import Scratchpad.Text.Character

/-!
# Socket addresses

An address is a host and a port. Hosts are written as four decimal bytes, or in brackets as eight
hexadecimal groups, of which one run of zeros may be left out.
-/

namespace Scratchpad.Http

inductive Host
  | v4 (bytes : List Nat)
  | v6 (groups : List Nat)
deriving DecidableEq, Repr

structure Address where
  host : Host
  port : Nat
deriving DecidableEq, Repr

namespace Host

/-- A byte in decimal, without zeros in front. -/
def byte? (cs : List Char) : Option Nat :=
  if cs = [] ∨ 3 < cs.length ∨ !cs.all Char.isDigit then none
  else if cs.head? = some '0' ∧ 1 < cs.length then none
  else
    let n := cs.foldl (fun n c => n * 10 + (c.toNat - '0'.toNat)) 0
    if n < 256 then some n else none

def bytes? (cs : List Char) : Option (List Nat) :=
  let parts := cs.splitOn '.'
  if parts.length = 4 then parts.mapM byte? else none

def group? (cs : List Char) : Option Nat :=
  if cs = [] ∨ 4 < cs.length then none
  else cs.foldlM (fun n c => (Text.hexValue? c).map fun d => n * 16 + d) 0

/-- Groups between colons; where `tail` says so, the last may be four decimal bytes, which are two
groups. -/
def groups? (tail : Bool) (cs : List Char) : Option (List Nat) :=
  if cs = [] then some []
  else
    let parts := cs.splitOn ':'
    match parts.getLast?.bind bytes?, tail with
    | some [a, b, c, d], true => do
      return (← parts.dropLast.mapM group?) ++ [256 * a + b, 256 * c + d]
    | _, _ => parts.mapM group?

/-- The texts on the two sides of the first pair of colons. -/
def cut? : List Char → Option (List Char × List Char)
  | [] => none
  | ':' :: ':' :: rest => some ([], rest)
  | c :: rest => (cut? rest).map fun (a, b) => (c :: a, b)

def eight? (cs : List Char) : Option (List Nat) :=
  match cut? cs with
  | none => do
    let groups ← groups? true cs
    if groups.length = 8 then some groups else none
  | some (a, b) => do
    let front ← groups? false a
    let back ← groups? true b
    if front.length + back.length < 8 then
      some (front ++ List.replicate (8 - front.length - back.length) 0 ++ back)
    else none

/-- A zone is a number of 32 bits. -/
def isZone (cs : List Char) : Bool :=
  cs ≠ [] && cs.all Char.isDigit &&
    cs.foldl (fun n c => n * 10 + (c.toNat - '0'.toNat)) 0 < 4294967296

/-- A host as it is written before a port. -/
def ofString? (s : String) : Option Host :=
  match s.toList with
  | '[' :: cs =>
    if cs.getLast? = some ']' then
      let inner := cs.dropLast
      let host := inner.takeWhile (· ≠ '%')
      match inner.drop host.length with
      | [] => (eight? host).map .v6
      | _ :: zone => if isZone zone then (eight? host).map .v6 else none
    else none
  | cs => (bytes? cs).map .v4

/-- The host in the way that the network takes it: one of four bytes may be written in eight groups. -/
def plain : Host → Host
  | .v6 [0, 0, 0, 0, 0, 0xFFFF, a, b] => .v4 [a / 256, a % 256, b / 256, b % 256]
  | h => h

/-- Does the host stand for all addresses? -/
def isWildcard : Host → Bool
  | .v4 bytes => bytes.all (· = 0)
  | .v6 groups => groups.all (· = 0)

/-- Does the host lead to this machine? -/
def isLocal : Host → Bool
  | .v4 bytes => bytes.head? = some 127 || bytes.all (· = 0)
  | .v6 groups => groups.all (· = 0) || groups = [0, 0, 0, 0, 0, 0, 0, 1]

end Host

/-- Why nobody can listen at an address. -/
inductive ListenError
  | inUse
  | notAvailable
deriving DecidableEq, Repr

def ListenError.text : ListenError → String
  | .inUse => "Address already in use (os error 98)"
  | .notAvailable => "Cannot assign requested address (os error 99)"

namespace Address

/-- Two listeners that cannot both be there. -/
def conflicts (a b : Address) : Bool :=
  a.port ≠ 0 && a.port = b.port &&
    (a.host.plain = b.host.plain || a.host.plain.isWildcard || b.host.plain.isWildcard)

/-- What is in the way of a listener, given those that are there. -/
def listenError? (taken : List Address) (a : Address) : Option ListenError :=
  if !a.host.plain.isLocal then some .notAvailable
  else if taken.any a.conflicts then some .inUse
  else none

end Address
end Scratchpad.Http
