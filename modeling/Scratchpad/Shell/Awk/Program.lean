import Scratchpad.Shell.Awk.Value
import Scratchpad.Shell.Pattern

/-!
# Programs of the record language

A program is a list of rules, each with the records it is for and what is done with them, and of
functions.
-/

namespace Scratchpad.Shell.Awk

inductive Arithmetic
  | add
  | sub
  | mul
  | div
  | rem
  | pow
deriving DecidableEq

inductive Relation
  | less
  | atMost
  | equal
  | unequal
  | more
  | atLeast
deriving DecidableEq

/-- The functions that are there without being defined. -/
inductive Intrinsic
  | length
  | substr
  | index
  | split
  | sub
  | gsub
  | matching
  | sprintf
  | sin
  | cos
  | arctan
  | exp
  | log
  | sqrt
  | int
  | rand
  | seed
  | lower
  | upper
  | system
  | close
  | flush
  | timeOf
  | timeText
  | now
deriving DecidableEq

/-- An expression. Where a pattern is wanted, a fixed one is taken as it is, and any other expression
as the text of one. `waiting` says how many values wait for the end of a call. -/
inductive Expr
  | number (x : Floating)
  | text (bytes : Bytes)
  | pattern (p : Pattern)
  | name (name : String)
  | field (e : Expr)
  | element (array : String) (keys : List Expr)
  | assign (target value : Expr)
  | update (op : Arithmetic) (target value : Expr)
  | step (up isFirst : Bool) (target : Expr)
  | choice (c a b : Expr)
  | either (a b : Expr)
  | both (a b : Expr)
  | not (e : Expr)
  | negate (e : Expr)
  | plus (e : Expr)
  | contains (keys : List Expr) (array : String)
  | matching (negated : Bool) (e p : Expr)
  | relation (r : Relation) (a b : Expr)
  | join (a b : Expr)
  | arithmetic (op : Arithmetic) (a b : Expr)
  | call (name : String) (waiting : Nat) (args : List Expr)
  | intrinsic (f : Intrinsic) (args : List Expr)
  | nextLine (target : Option Expr)
  | lineOf (target : Option Expr) (file : Expr)
  | lineFrom (target : Option Expr) (command : Expr)
  | group (members : List Expr)

/-- May an expression be given a value? -/
def Expr.isTarget : Expr → Bool
  | .name _ | .field _ | .element .. => true
  | _ => false

/-- Where output goes. -/
inductive Redirect
  | file (e : Expr)
  | append (e : Expr)
  | command (e : Expr)

inductive Statement
  | expr (e : Expr)
  | print (args : List Expr) (redirect : Option Redirect)
  | printf (args : List Expr) (redirect : Option Redirect)
  | branch (c : Expr) (a : Statement) (b : Option Statement)
  | loop (c : Expr) (body : Statement)
  | loopOnce (body : Statement) (c : Expr)
  | count (start : Option Statement) (c : Option Expr) (step : Option Statement) (body : Statement)
  | each (name array : String) (body : Statement)
  | block (body : List Statement)
  | next
  | nextFile
  | exit (code : Option Expr)
  | give (value : Option Expr)
  | leave
  | again
  | delete (array : String) (keys : Option (List Expr))

/-- The records that a rule is for. -/
inductive Selector
  | atStart
  | atEnd
  | all
  | those (e : Expr)
  | between (first last : Expr)

structure Rule where
  selector : Selector
  body : Option Statement

structure Function where
  name : String
  params : List String
  body : Statement

/-- A program. `taken` are the names that are not those of variables. -/
structure Program where
  rules : List Rule
  functions : List Function
  taken : List String

end Scratchpad.Shell.Awk
