import Scratchpad.Http.Message
import Scratchpad.Text.Character

/-!
# Byte ranges

A range header asks for parts of a file, each given by the positions of its first and last byte, or
by how many bytes it has at the end of the file. What is asked for is settled against the size of
the file; parts that run backwards or overlap ask for nothing that can be served.
-/

namespace Scratchpad.Http

/-- A part of a file as it is asked for; without a last position it goes on to the end. -/
inductive ByteRange
  | between (first : Nat) (last : Option Nat)
  | ending (length : Nat)
deriving DecidableEq, Repr

/-- The positions of the first and the last byte of a part. -/
structure Span where
  first : Nat
  last : Nat
deriving DecidableEq, Repr

namespace Span

/-- Do two parts share a byte? -/
def meets (a b : Span) : Bool :=
  a.first ≤ b.last && b.first ≤ a.last

/-- The bytes of a part. -/
def cut (s : Span) (contents : Bytes) : Bytes :=
  (contents.drop s.first).take (s.last + 1 - s.first)

end Span

namespace ByteRange

/-- Positions are below this. -/
def positionLimit : Nat := 18446744073709551616

/-- A position is a word of digits without a sign or a needless zero in front. -/
def position? (cs : List Char) : Option Nat :=
  if cs = [] ∨ !cs.all Char.isDigit then none
  else if cs.head? = some '0' ∧ cs.length ≠ 1 then none
  else
    let n := cs.foldl (fun n c => 10 * n + (c.toNat - '0'.toNat)) 0
    if n < positionLimit then some n else none

/-- Reads one part: two positions around a hyphen, one of which may be missing. -/
def part? (cs : List Char) : Option ByteRange :=
  match cs.splitOn '-' with
  | [[], []] => none
  | [[], length] => ByteRange.ending <$> position? length
  | [first, []] => (ByteRange.between · none) <$> position? first
  | [first, last] => do return .between (← position? first) (some (← position? last))
  | _ => none

/-- A part that follows a comma may have one blank in front, and none elsewhere. -/
def later? (cs : List Char) : Option ByteRange :=
  if cs.getLast?.any Text.isBlank || 1 < cs.countP Text.isBlank then none
  else part? (Text.trim cs)

/-- Reads the value of a range header. -/
def list? (value : String) : Option (List ByteRange) := do
  let cs ← "bytes=".toList.isPrefixOf? value.toList
  match cs.splitOn ',' with
  | [] => none
  | first :: rest => return (← part? first) :: (← rest.mapM later?)

/-- The positions that a part has in a file of some size, unless it would begin before the file or be
nothing at its end. -/
def span? (size : Nat) : ByteRange → Option Span
  | .between first last => some ⟨first, (last.getD (size - 1)).min (size - 1)⟩
  | .ending length => if length = 0 ∨ size < length then none else some ⟨size - length, size - 1⟩

/-- Does no part meet one that follows it? -/
def apart : List Span → Bool
  | [] => true
  | s :: rest => rest.all (!s.meets ·) && apart rest

/-- The parts of a file of some size that a range header asks for, if they can be served. -/
def spans? (size : Nat) (value : String) : Option (List Span) := do
  let spans ← (← list? value).mapM (span? size)
  if spans.all (fun s => s.first ≤ s.last) && apart spans then some spans else none

end ByteRange
end Scratchpad.Http
