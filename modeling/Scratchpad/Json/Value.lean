import Scratchpad.Json.Document

/-!
# JSON values

A value is what a document means: literals are numbers, strings are text, and the members of an
object form a map, kept as a list sorted by key in which the last of several values of one key
stands. Nesting deeper than `Json.depthLimit` has no value.
-/

namespace Scratchpad

inductive Json
  | null
  | bool (b : Bool)
  | number (n : Json.Number)
  | string (s : String)
  | array (items : List Json)
  | object (members : List (String × Json))

namespace Json

/-- Sets `key`, keeping the keys sorted. -/
def insert (key : String) (value : Json) : List (String × Json) → List (String × Json)
  | [] => [(key, value)]
  | (k, v) :: rest =>
    if key < k then (key, value) :: (k, v) :: rest
    else if key = k then (key, value) :: rest
    else (k, v) :: insert key value rest

/-- How many arrays and objects may stand inside each other. -/
def depthLimit : Nat := 127

/-- The value of a document with at most `depth` levels of nesting. -/
def ofDocument? : Nat → Document → Option Json
  | _, .null => some .null
  | _, .bool b => some (.bool b)
  | _, .number l => l.value?.map .number
  | _, .string s => s.map .string
  | depth + 1, .array items => (items.mapM (ofDocument? depth)).map .array
  | depth + 1, .object members => do
    let values ← members.mapM fun m => do return (← m.1, ← ofDocument? depth m.2)
    return .object (values.foldl (fun sorted m => insert m.1 m.2 sorted) [])
  | 0, .array _ => none
  | 0, .object _ => none

def ofBytes? (bytes : Bytes) : Option Json := do
  ofDocument? depthLimit (← Document.ofBytes? bytes)

end Json
end Scratchpad
