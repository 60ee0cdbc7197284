import Scratchpad.Toml.Scalar
import Scratchpad.Toml.Token

/-!
# TOML statements

A TOML text is a list of statements: assignments of an expression to a dotted key, and headers that
open a table or one more table of an array. The parser is a fold over the tokens; its stack holds
the arrays and inline tables that are open. What the statements mean together, and which of them
contradict each other, is not its concern.
-/

namespace Scratchpad.Toml

/-- A dotted key, its last part last. -/
abbrev Path := List String

inductive Expr
  | scalar (s : Scalar)
  | array (items : List Expr)
  | inline (members : List (Path × Expr))

inductive Statement
  | assign (path : Path) (e : Expr)
  | table (path : Path)
  | arrayTable (path : Path)

namespace Statement

/-- An open array or inline table with what it holds so far, last one first; `path` is the key whose
value is being read. -/
inductive Frame
  | array (done : List Expr)
  | inline (done : List (Path × Expr)) (path : Path)

/-- What a key belongs to. -/
inductive Owner
  | line
  | header (double : Bool)
  | inline (target : Path) (stack : List Frame) (done : List (Path × Expr))

/-- Where the parser stands; key paths under way are kept last part first, and `target` is the key
of the assignment that is being read. -/
inductive State
  | line
  /-- A statement is complete; only its line must end. -/
  | ended
  /-- One bracket of a header. -/
  | bracket
  | key (owner : Owner) (path : Path)
  | afterKey (owner : Owner) (path : Path)
  /-- A key of an inline table and a line break, after which the key is not continued. -/
  | afterLine (target : Path) (stack : List Frame) (done : List (Path × Expr)) (path : Path)
  /-- The second closing bracket of a header must follow. -/
  | closeHeader (path : Path)
  | value (target : Path) (stack : List Frame)
  | scalar (target : Path) (stack : List Frame) (text : List Char)
  /-- A date and one blank, after which a time may follow. -/
  | dateBlank (target : Path) (stack : List Frame) (text : List Char)
  | after (target : Path) (stack : List Frame) (e : Expr)

structure Parser where
  done : List Statement
  state : State

namespace Parser

def start : Parser := ⟨[], .line⟩

/-- ASCII letters, digits, underscores and hyphens. -/
def isBareKey (cs : List Char) : Bool :=
  !cs.isEmpty && cs.all fun c => c.isAlphanum || c == '_' || c == '-'

/-- How many parts a dotted key may have. -/
def keyLimit : Nat := 80

/-- One part of a dotted key. -/
def keyPart? : Token → Option String
  | .atom a => if isBareKey a then some (String.ofList a) else none
  | .text s false => some s
  | _ => none

def stepKey (owner : Owner) (path : Path) (t : Token) : Option State :=
  match t, owner, path with
  | .blank _, _, _ => some (.key owner path)
  | .newline, .inline .., [] => some (.key owner path)
  | .mark '}', .inline target stack done, [] => some (.after target stack (.inline done.reverse))
  | t, _, _ =>
    if path.length < keyLimit then do return .afterKey owner ((← keyPart? t) :: path) else none

/-- A token after a part of a key, with the statement that it may complete. -/
def stepAfterKey (owner : Owner) (path : Path) (t : Token) :
    Option (Option Statement × State) :=
  match t, owner with
  | .blank _, _ => some (none, .afterKey owner path)
  | .mark '.', _ => some (none, .key owner path)
  | .mark '=', .line => some (none, .value path.reverse [])
  | .mark '=', .inline target stack done =>
    some (none, .value target (.inline done path.reverse :: stack))
  | .newline, .inline target stack done => some (none, .afterLine target stack done path)
  | .mark ']', .header false => some (some (.table path.reverse), .ended)
  | .mark ']', .header true => some (none, .closeHeader path)
  | _, _ => none

/-- A token after a key and a line break. -/
def stepAfterLine (target : Path) (stack : List Frame) (done : List (Path × Expr)) (path : Path)
    (t : Token) : Option State :=
  match t with
  | .blank _ | .newline => some (.afterLine target stack done path)
  | .mark '=' => some (.value target (.inline done path.reverse :: stack))
  | _ => none

/-- Line breaks are blanks inside an array or an inline table, and nowhere else before a value. -/
def stepValue (target : Path) (stack : List Frame) (t : Token) : Option State :=
  match t, stack with
  | .blank _, _ => some (.value target stack)
  | .newline, _ :: _ => some (.value target stack)
  | .mark '[', _ => some (.value target (.array [] :: stack))
  | .mark '{', _ => some (.key (.inline target stack []) [])
  | .mark ']', .array done :: stack => some (.after target stack (.array done.reverse))
  | .text s _, _ => some (.after target stack (.scalar (.string s)))
  | .atom a, _ => some (.scalar target stack a)
  | _, _ => none

/-- A token after an expression, with the statement that it may complete. -/
def stepAfter (target : Path) (stack : List Frame) (e : Expr) (t : Token) :
    Option (Option Statement × State) :=
  match t, stack with
  | .blank _, _ => some (none, .after target stack e)
  | .newline, [] => some (some (.assign target e), .line)
  | .newline, _ :: _ => some (none, .after target stack e)
  | .mark ',', .array done :: stack => some (none, .value target (.array (e :: done) :: stack))
  | .mark ']', .array done :: stack => some (none, .after target stack (.array (e :: done).reverse))
  | .mark ',', .inline done path :: stack =>
    some (none, .key (.inline target stack ((path, e) :: done)) [])
  | .mark '}', .inline done path :: stack =>
    some (none, .after target stack (.inline ((path, e) :: done).reverse))
  | _, _ => none

def scalar? (text : List Char) : Option Expr :=
  (Scalar.ofText? text).map .scalar

def startsWithDigit : List Char → Bool
  | c :: _ => c.isDigit
  | [] => false

def stepState (s : State) (t : Token) : Option (Option Statement × State) :=
  match s with
  | .line =>
    match t with
    | .blank _ | .newline => some (none, .line)
    | .mark '[' => some (none, .bracket)
    | t => do return (none, ← stepKey .line [] t)
  | .ended =>
    match t with
    | .blank _ => some (none, .ended)
    | .newline => some (none, .line)
    | _ => none
  | .bracket =>
    match t with
    | .mark '[' => some (none, .key (.header true) [])
    | t => do return (none, ← stepKey (.header false) [] t)
  | .key owner path => do return (none, ← stepKey owner path t)
  | .afterKey owner path => stepAfterKey owner path t
  | .afterLine target stack done path => do
    return (none, ← stepAfterLine target stack done path t)
  | .closeHeader path =>
    if t = .mark ']' then some (some (.arrayTable path.reverse), .ended) else none
  | .value target stack => do return (none, ← stepValue target stack t)
  | .scalar target stack text =>
    match t with
    | .atom a => some (none, .scalar target stack (text ++ a))
    | .mark '.' => some (none, .scalar target stack (text ++ ['.']))
    | t =>
      if t = .blank [' '] && Scalar.isDate text then some (none, .dateBlank target stack text)
      else do stepAfter target stack (← scalar? text) t
  | .dateBlank target stack text =>
    match t with
    | .atom a =>
      if startsWithDigit a then some (none, .scalar target stack (text ++ ' ' :: a)) else none
    | t => do stepAfter target stack (← scalar? text) t
  | .after target stack e => stepAfter target stack e t

def step (p : Parser) (t : Token) : Option Parser := do
  let (statement, state) ← stepState p.state t
  return ⟨statement.toList ++ p.done, state⟩

/-- The last line needs no line break. -/
def finish (p : Parser) : Option (List Statement) :=
  match p.state with
  | .line => some p.done.reverse
  | .ended => some p.done.reverse
  | .after target [] e => some (.assign target e :: p.done).reverse
  | .scalar target [] text => do return (.assign target (← scalar? text) :: p.done).reverse
  | .dateBlank target [] text => do return (.assign target (← scalar? text) :: p.done).reverse
  | _ => none

end Parser

/-- The statements of a text; a byte order mark in front is skipped. -/
def list? (cs : List Char) : Option (List Statement) := do
  let cs := match cs with
    | '\uFEFF' :: rest => rest
    | cs => cs
  (← (← Token.scan cs).foldlM Parser.step .start).finish

end Statement
end Scratchpad.Toml
