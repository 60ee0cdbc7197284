import Scratchpad.Text.Utf8
import Scratchpad.Json.Token

/-!
# JSON documents

A `Document` is what the grammar says of a text, before any question of meaning: number literals
are not evaluated, keys may repeat and keep their order, nesting has no limit, and strings need not
be Unicode text. Values, catalog entries and policies are each read from a document by their own
rules, so a part that a reader ignores is checked for its grammar alone.

The parser is a fold over the tokens with the open arrays and objects as its stack.
-/

namespace Scratchpad.Json

inductive Document
  | null
  | bool (b : Bool)
  | number (l : Literal)
  | string (text : Option String)
  | array (items : List Document)
  | object (members : List (Option String × Document))

namespace Document

abbrev Members := List (Option String × Document)

/-- An open array or object, with what it holds so far, last one first. -/
inductive Frame
  | items (done : List Document)
  | member (done : Members) (name : Option String)

inductive Parser
  /-- A value must follow. -/
  | value (stack : List Frame)
  /-- The first item of an array or its end must follow. -/
  | item (stack : List Frame)
  /-- A key must follow, or the end of the object when nothing came before. -/
  | key (stack : List Frame) (done : Members) (first : Bool)
  | colon (stack : List Frame) (done : Members) (name : Option String)
  /-- A value is complete: its neighbour or the end of what holds it must follow. -/
  | after (stack : List Frame) (d : Document)

namespace Parser

def value? (stack : List Frame) : Token → Option Parser
  | .openObject => some (.key stack [] true)
  | .openArray => some (.item stack)
  | .null => some (.after stack .null)
  | .bool b => some (.after stack (.bool b))
  | .number l => some (.after stack (.number l))
  | .string s => some (.after stack (.string s))
  | .closeObject | .closeArray | .colon | .comma => none

def step : Parser → Token → Option Parser
  | .value stack, t => value? stack t
  | .item stack, .closeArray => some (.after stack (.array []))
  | .item stack, t => value? (.items [] :: stack) t
  | .key stack _ first, .closeObject => if first then some (.after stack (.object [])) else none
  | .key stack done _, .string name => some (.colon stack done name)
  | .key .., _ => none
  | .colon stack done name, .colon => some (.value (.member done name :: stack))
  | .colon .., _ => none
  | .after (.items done :: stack) d, .comma => some (.value (.items (d :: done) :: stack))
  | .after (.items done :: stack) d, .closeArray =>
    some (.after stack (.array (d :: done).reverse))
  | .after (.member done name :: stack) d, .comma => some (.key stack ((name, d) :: done) false)
  | .after (.member done name :: stack) d, .closeObject =>
    some (.after stack (.object ((name, d) :: done).reverse))
  | .after .., _ => none

def finish : Parser → Option Document
  | .after [] d => some d
  | _ => none

end Parser

def ofTokens? (tokens : List Token) : Option Document := do
  (← tokens.foldlM Parser.step (.value [])).finish

/-- The document that the bytes hold, if they are one JSON text and nothing else. -/
def ofBytes? (bytes : Bytes) : Option Document := do
  ofTokens? (← Token.scan (Text.Utf8.scan bytes))

end Document
end Scratchpad.Json
