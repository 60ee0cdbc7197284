import Scratchpad.Files.System

/-!
# Flows and deeds

A flow is the bytes that a reader will get: some, and then a cycle of bytes that comes again and
again. A flow whose cycle is empty comes to an end. One that is shut has nothing to read, and whoever
tries is told so.

A deed is all that a tool does when it runs once: what it writes and where, what it goes on writing
for ever, what it leaves unread, how long it takes and the code it exits with. A tool that never
ends has no exit code. Most tools leave the files as they are; one that does not says how they are
then.
-/

namespace Scratchpad.Shell

structure Flow where
  first : Bytes
  cycle : Bytes
  isShut : Bool := false
deriving DecidableEq, Repr

def newline : UInt8 := 0x0A

namespace Flow

def empty : Flow := { first := [], cycle := [] }

def shut : Flow := { first := [], cycle := [], isShut := true }

def ofBytes (bytes : Bytes) : Flow := { first := bytes, cycle := [] }

def isEndless (f : Flow) : Bool :=
  !f.cycle.isEmpty

/-- What is read under a name: the input itself, zeros without end, or the contents of a file. -/
def named (files : Files.System) (input : Flow) (name : String) : Except Files.Error Flow :=
  match name with
  | "/dev/stdin" => .ok input
  | "/dev/zero" => .ok { first := [], cycle := [0] }
  | name => (files.read (Files.Path.ofString name)).map ofBytes

/-- The same flow with at least `n` bytes before its cycle, if it has that many. -/
def unroll (f : Flow) (n : Nat) : Flow :=
  if f.cycle = [] ∨ n ≤ f.first.length then f
  else
    let rounds := (n - f.first.length) / f.cycle.length + 1
    { f with first := f.first ++ (List.replicate rounds f.cycle).flatten }

/-- The first `n` bytes, and what comes after them. -/
def splitAt (f : Flow) (n : Nat) : Bytes × Flow :=
  let f := f.unroll n
  (f.first.take n, { first := f.first.drop n, cycle := f.cycle })

/-- Every byte replaced by some bytes. -/
def flatMap (f : Flow) (g : UInt8 → Bytes) : Flow :=
  { first := f.first.flatMap g, cycle := f.cycle.flatMap g }

/-- The bytes up to the `n`-th newline with it, and what comes after them; all bytes of a flow that
has fewer lines. There is no answer when an endless flow has none. -/
def splitAtLine (f : Flow) (n : Nat) : Option (Bytes × Flow) :=
  if f.isEndless ∧ ¬ f.cycle.contains newline ∧ f.first.count newline < n then none
  else
    let f := if f.isEndless then f.unroll (f.first.length + (n + 1) * f.cycle.length) else f
    let (line, _) := f.first.foldl
      (fun (acc : Bytes × Nat) b =>
        if acc.2 = 0 then acc else (b :: acc.1, if b = newline then acc.2 - 1 else acc.2))
      ([], n)
    some (line.reverse, { first := f.first.drop line.length, cycle := f.cycle })

end Flow

/-- The parts of some bytes, each of which a byte ends; the last one need not be ended. -/
def partsOf (mark : UInt8) (bytes : Bytes) : List Bytes :=
  let parts := bytes.splitOn mark
  if parts.getLast? = some [] then parts.dropLast else parts

/-- The lines of some bytes, without their newlines. -/
def linesOf (bytes : Bytes) : List Bytes :=
  partsOf newline bytes

/-- Parts as bytes, each with its end. -/
def ofParts (mark : UInt8) (parts : List Bytes) : Bytes :=
  parts.flatMap fun part => part ++ [mark]

/-- Lines as bytes, each with its newline. -/
def ofLines (lines : List Bytes) : Bytes :=
  ofParts newline lines

/-! ## Deeds -/

inductive Outlet
  | out
  | err
deriving DecidableEq, Repr

structure Deed where
  writes : List (Outlet × Bytes)
  onward : Bytes
  unread : Flow
  lastsMs : Nat
  code : Option Nat
  files : Option Files.System := none

/-- What a tool sees when it starts. -/
structure Scene where
  args : List String
  input : Flow
  files : Files.System
  environment : List (String × String)

abbrev Tool := Scene → Deed

namespace Deed

/-- A deed that reads nothing. -/
def ofWrites (s : Scene) (writes : List (Outlet × Bytes)) (code : Nat) : Deed where
  writes
  onward := []
  unread := s.input
  lastsMs := 0
  code := some code

def saying (s : Scene) (text : String) : Deed :=
  ofWrites s [(.out, Bytes.ofString text)] 0

def told (text : String) : Outlet × Bytes :=
  (.err, Bytes.ofString (text ++ "\n"))

/-- A deed that only complains. -/
def complaint (s : Scene) (text : String) (code : Nat) : Deed :=
  ofWrites s [told text] code

/-- A deed that reads and never ends, and never writes. -/
def waiting : Deed where
  writes := []
  onward := []
  unread := .empty
  lastsMs := 0
  code := none

/-- A deed that writes a flow and leaves another unread. -/
def passing (flow unread : Flow) (code : Nat) : Deed where
  writes := [(.out, flow.first)]
  onward := flow.cycle
  unread
  lastsMs := 0
  code := if flow.isEndless then none else some code

end Deed
end Scratchpad.Shell
