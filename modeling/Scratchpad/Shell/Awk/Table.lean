import Scratchpad.Shell.Awk.Value
import Std.Data.HashMap

/-!
# Tables of the record language

A table holds values under keys. Its keys are in chains, and a chain is found by a key's hash, or by
the key itself if it is a whole number; a key that is looked up goes to the front of its chain. The
chains are doubled when there are too many keys for them. The order in which keys are shown is that
of the chains by hash; whole numbers enter these chains only when a key that is none is looked up, or
when all keys are asked for.
-/

namespace Scratchpad.Shell.Awk

inductive Key
  | whole (n : Int)
  | text (bytes : Bytes)
deriving DecidableEq

def Key.bytes : Key → Bytes
  | .whole n => Bytes.ofString (toString n)
  | .text bytes => bytes

structure Table where
  values : Std.HashMap Bytes Value
  wholes : Array (List Int)
  texts : Array (List Bytes)
  hashed : Bool

namespace Table

def chains : Nat := 64

/-- How many keys there may be for a chain. -/
def mostPerChain : Nat := 12

def empty : Table := ⟨∅, Array.replicate chains [], Array.replicate chains [], false⟩

def size (t : Table) : Nat :=
  t.values.size

/-- The hash of a key: its bytes are mixed in one by one, each before a product. -/
def hash (bytes : Bytes) : Nat :=
  (bytes.foldl (fun (h : UInt32) b => (h ^^^ b.toUInt32) * 16777619) 2166136261).toNat

def textChain (t : Table) (bytes : Bytes) : Nat :=
  hash bytes % t.texts.size

def wholeChain (t : Table) (n : Int) : Nat :=
  (n % t.wholes.size).toNat

/-- Puts a member first in its list. -/
def first {α : Type} [DecidableEq α] (a : α) (l : List α) : List α :=
  match l with
  | b :: _ => if a = b then l else a :: l.erase a
  | [] => [a]

/-- Enters the whole numbers into the chains by hash. -/
def hashAll (t : Table) : Table :=
  if t.hashed then t
  else
    { t with
      hashed := true
      texts := t.wholes.foldl (fun texts chain =>
        chain.foldl (fun (texts : Array (List Bytes)) n =>
          let bytes := Bytes.ofString (toString n)
          texts.modify (hash bytes % texts.size) (bytes :: ·)) texts) t.texts }

/-- Twice as many chains; the members of one keep their order. -/
def double {α : Type} (place : α → Nat) (chains : Array (List α)) : Array (List α) :=
  let size := 2 * chains.size
  chains.map (·.filter fun a => place a % size < chains.size) ++
    chains.map (·.filter fun a => chains.size ≤ place a % size)

def grow (t : Table) : Table :=
  if t.size ≤ mostPerChain * t.wholes.size then t
  else
    let size : Int := 2 * t.wholes.size
    { t with
      wholes := double (fun n => (n % size).toNat) t.wholes
      texts := double hash t.texts }

def contains (t : Table) (k : Key) : Bool :=
  t.values.contains k.bytes

/-- Brings a key that is there to the front of its chain. -/
def touch (t : Table) (k : Key) : Table :=
  let touchText (t : Table) (bytes : Bytes) : Table :=
    { t with texts := t.texts.modify (t.textChain bytes) (first bytes) }
  match k with
  | .whole n =>
    let chain := t.wholeChain n
    let known := (t.wholes.getD chain []).contains n
    let t := { t with wholes := t.wholes.modify chain (first n) }
    if known || !t.hashed then t else touchText t k.bytes
  | .text bytes => touchText t.hashAll bytes

/-- The value under a key, with the table as it is after the look-up. -/
def find? (t : Table) (k : Key) : Option (Value × Table) :=
  (t.values.get? k.bytes).map fun v => (v, t.touch k)

/-- Puts a value under a key. -/
def insert (t : Table) (k : Key) (v : Value) : Table :=
  let t := if t.hashed then t else match k with
    | .text _ => t.hashAll
    | .whole _ => t
  ({ t with values := t.values.insert k.bytes v }.grow).touch k

def erase (t : Table) (k : Key) : Table :=
  if !t.contains k then t
  else
    let t := t.touch k
    let bytes := k.bytes
    let t := { t with
      values := t.values.erase bytes
      texts := t.texts.modify (t.textChain bytes) (·.erase bytes)
      wholes := match k with
        | .whole n => t.wholes.modify (t.wholeChain n) (·.erase n)
        | .text _ => t.wholes.map (·.filter fun n => Bytes.ofString (toString n) ≠ bytes) }
    if t.size = 0 then empty else t

/-- All keys in order, with the table in which that order is settled. -/
def keys (t : Table) : List Bytes × Table :=
  let t := t.hashAll
  (t.texts.toList.flatten, t)

/-- The parts of a text, which are counted from one. -/
def ofParts (parts : List Value) : Table :=
  let rec enough : Nat → Nat → Nat
    | 0, n => n
    | fuel + 1, n => if parts.length ≤ mostPerChain * n then n else enough fuel (2 * n)
  let chains := enough parts.length chains
  let blank : Table := ⟨∅, Array.replicate chains [], Array.replicate chains [], false⟩
  (parts.zipIdx 1).foldl (fun (t : Table) (v, i) =>
    { t with
      values := t.values.insert (Bytes.ofString i.repr) v
      wholes := t.wholes.modify (t.wholeChain i) ((i : Int) :: ·) }) blank

end Table
end Scratchpad.Shell.Awk
