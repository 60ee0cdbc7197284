import Scratchpad.Pad
import Scratchpad.Json.Writer

/-!
# Frames

A frame is what the user sees of a pad: the entries with the selected one marked, the text, whether
a response is awaited, and the result. `Frame.ofPad` is a function of the pad alone. A frame's text
is written in pieces; every line of it ends with a line break.
-/

namespace Scratchpad

structure Choice where
  label : String
  value : String
  selected : Bool
deriving DecidableEq, Repr

structure Frame where
  choices : List Choice
  text : String
  pending : Bool
  result : Option String
deriving DecidableEq, Repr

/-- A string is shown as it is, any other value as pretty JSON. -/
def Json.display : Json → String
  | .string s => s
  | v => v.pretty

namespace Frame

def ofPad (p : Pad) : Frame :=
  { choices := p.catalog.items.mapIdx fun i e => ⟨e.name, e.value, p.catalog.selected == some i⟩
    text := p.editor.text
    pending := p.editor.isPending
    result := p.editor.result.map Json.display }

def choicePieces (c : Choice) : List String :=
  [if c.selected then ">" else " ", " ", c.label, "\n"]

/-- The text in the pieces in which it is handed to a device. -/
def pieces (f : Frame) : List String :=
  ["── examples ──\n"] ++
    (if f.choices.isEmpty then ["  (none)\n"] else []) ++
    f.choices.flatMap choicePieces ++
    ["── editor ──\n", f.text, "\n"] ++
    [if f.pending then "── result (evaluating) ──\n" else "── result ──\n"] ++
    f.result.toList ++ ["\n"]

def toText (f : Frame) : String :=
  String.join f.pieces

end Frame
end Scratchpad
