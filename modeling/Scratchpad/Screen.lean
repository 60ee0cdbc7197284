import Scratchpad.Frame
import Scratchpad.Text.Utf8

/-!
# Devices and the screen

One write hands bytes to a device, which accepts a number of them from the front or fails; it may
also fail to flush, and how it behaves may change with every call. Writing all of a text repeats
writes until nothing is left or one fails, so what a sink has accepted of it is always a beginning.

The screen writes frames to a sink and remembers the last one that was written and flushed in full.
A frame equal to the remembered one is not written again. After a failure the memory is as it was
before, so the same frame is tried again in full.
-/

namespace Scratchpad

inductive Accepted
  | bytes (count : Nat)
  | failed (error : String)
deriving DecidableEq, Repr

/-- How a device with states `σ` answers writes and flushes. A write that is interrupted is made
again, and its answer is that of the last try. -/
structure Device (σ : Type) where
  write : σ → Bytes → σ × Accepted
  flush : σ → σ × Option String

/-- A device together with what it has accepted, the last write first. -/
structure Sink (σ : Type) where
  device : σ
  chunks : List Bytes

namespace Sink
variable {σ : Type}

def fresh (device : σ) : Sink σ := ⟨device, []⟩

def output (s : Sink σ) : Bytes :=
  s.chunks.reverse.flatten

/-- Writes all bytes, or up to the write that fails. A write that accepts nothing is a failure. -/
def writeAll (d : Device σ) (s : Sink σ) (bytes : Bytes) : Sink σ × Option String :=
  match bytes with
  | [] => (s, none)
  | b :: rest =>
    match d.write s.device (b :: rest) with
    | (device, .failed error) => ({ s with device }, some error)
    | (device, .bytes 0) => ({ s with device }, some "failed to write whole buffer")
    | (device, .bytes (n + 1)) =>
      writeAll d ⟨device, (b :: rest.take n) :: s.chunks⟩ (rest.drop n)
termination_by bytes.length
decreasing_by simp only [List.length_cons, List.length_drop]; omega

/-- Writes the pieces in order, up to the first failure. -/
def writePieces (d : Device σ) (s : Sink σ) : List Bytes → Sink σ × Option String
  | [] => (s, none)
  | p :: rest =>
    match writeAll d s p with
    | (s, none) => writePieces d s rest
    | (s, some error) => (s, some error)

def flush (d : Device σ) (s : Sink σ) : Sink σ × Option String :=
  let (device, error) := d.flush s.device
  ({ s with device }, error)

end Sink

/-- A device with room for only so many bytes more, unless `room` is absent. -/
structure Tank where
  room : Option Nat
  failFlush : Bool
deriving DecidableEq, Repr

namespace Tank

def unlimited : Tank := ⟨none, false⟩

def device : Device Tank where
  write t bytes :=
    match t.room with
    | none => (t, .bytes bytes.length)
    | some 0 => (t, .failed "sink full")
    | some room =>
      ({ t with room := some (room - bytes.length) }, .bytes (min room bytes.length))
  flush t := (t, if t.failFlush then some "flush failed" else none)

end Tank

/-! ## The screen -/

structure Screen (σ : Type) where
  sink : Sink σ
  last : Option Frame

namespace Screen
variable {σ : Type}

def blank (device : σ) : Screen σ := ⟨.fresh device, none⟩

def output (s : Screen σ) : Bytes := s.sink.output

/-- Draws a frame unless it is the remembered one; the error is that of the write or flush which
failed. -/
def draw (d : Device σ) (s : Screen σ) (f : Frame) : Screen σ × Option String :=
  if s.last = some f then (s, none)
  else
    match s.sink.writePieces d (f.pieces.map Bytes.ofString) with
    | (sink, some error) => ({ s with sink }, some error)
    | (sink, none) =>
      match sink.flush d with
      | (sink, some error) => ({ s with sink }, some error)
      | (sink, none) => (⟨sink, some f⟩, none)

def invalidate (s : Screen σ) : Screen σ :=
  { s with last := none }

end Screen

end Scratchpad
