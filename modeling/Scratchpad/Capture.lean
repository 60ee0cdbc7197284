import Scratchpad.Process
import Scratchpad.Text.Character

/-!
# Bounded capture

A stream is read to its end, but no more than a limit of its bytes is kept; the others are counted.
Interrupted attempts are repeated, any other failure ends the capture.
-/

namespace Scratchpad

/-- The bytes kept so far and the number of bytes dropped. -/
structure Capture where
  kept : Bytes
  dropped : Nat
deriving DecidableEq, Repr

namespace Capture

open Process (Attempt)

def empty : Capture := ⟨[], 0⟩

/-- Takes one chunk: as much of it as there is room for is kept. -/
def add (limit : Nat) (c : Capture) (chunk : Bytes) : Capture :=
  let room := min (limit - c.kept.length) chunk.length
  ⟨c.kept ++ chunk.take room, c.dropped + (chunk.length - room)⟩

/-- Goes on with a capture through some attempts. -/
def resume (limit : Nat) (c : Capture) : List Attempt → Except String Capture
  | [] => .ok c
  | .chunk bytes :: rest => resume limit (c.add limit bytes) rest
  | .interrupted :: rest => resume limit c rest
  | .failed reason :: _ => .error reason

/-- Reads a stream to its end. -/
def read (limit : Nat) (stream : List Attempt) : Except String Capture :=
  resume limit empty stream

def note (dropped : Nat) : String :=
  "\n[output truncated " ++ dropped.repr ++ " bytes]"

/-- The text of a capture: trimmed at its end, and with a note if bytes were dropped. -/
def render (c : Capture) : String :=
  String.ofList (Text.trimEnd (Text.Utf8.lossy c.kept)) ++
    if c.dropped = 0 then "" else note c.dropped

end Capture
end Scratchpad
