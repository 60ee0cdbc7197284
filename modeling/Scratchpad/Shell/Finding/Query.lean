import Scratchpad.Files.Removal
import Scratchpad.Shell.Format
import Scratchpad.Shell.Pattern

/-!
# Questions about files

A search goes through trees of files and asks a question about each one. The question is put together
from steps, which look at something or do something, and each of which is true or not. Later steps are
taken only as far as earlier ones leave it open whether the question is true.
-/

namespace Scratchpad.Shell.Finding

open Files (Node)

/-- A number that is asked for: just so many, more, or less. -/
structure Bound where
  order : Ordering
  value : Nat

def Bound.admits (b : Bound) (n : Nat) : Bool :=
  compare n b.value = b.order

/-- What a wildcard or an expression is compared with. -/
inductive Aspect
  | name
  | path
  | target

/-- The times that are known of a file. -/
inductive Clock
  | changed
  | used

def Clock.of (c : Clock) (n : Node) : Int :=
  match c with
  | .changed => n.traits.changed
  | .used => n.traits.used.getD n.traits.changed

/-- Which permissions are asked for: just these, all of these, or any of them. -/
inductive Demand
  | exactly
  | all
  | some

def Demand.admits (d : Demand) (asked mode : Nat) : Bool :=
  match d with
  | .exactly => mode = asked
  | .all => mode &&& asked = asked
  | .some => asked = 0 || mode &&& asked ≠ 0

/-- Where something is written. -/
inductive Outlet
  | out
  | err
  | file (name : String)
deriving DecidableEq

/-- A piece of a form: some bytes, a fact about a file in a layout, which a second letter can say more of,
or the end of everything. -/
inductive Piece
  | bytes (bytes : Bytes)
  | fact (layout : Format.Layout) (letter : Char) (detail : Option Char)
  | stop

/-- Another program that is run for a file, or for as many as can be told at once. -/
structure Errand where
  number : Nat
  words : List String
  together : Bool
  inPlace : Bool
  asks : Bool

/-- One step of a question. Permissions that are asked for may differ for directories, and a time is given by
the bounds that it lies between, of which the later one belongs to them. -/
inductive Step
  | always (holds : Bool)
  | fits (aspect : Aspect) (anyCase : Bool) (wildcards : String)
  | matching (p : Pattern)
  | kind (letters : List Char) (other : Bool)
  | size (b : Bound) (unit : Nat)
  | empty
  | mode (d : Demand) (file dir : Nat)
  | names (b : Bound)
  | number (b : Bound)
  | owner (b : Bound)
  | group (b : Bound)
  | nobody
  | within (c : Clock) (after : Option Int) (upTo : Option Int)
  | usedAfter (b : Bound)
  | allowed (bits : Nat)
  | same (place : Files.Place)
  | print (o : Outlet) (ending : UInt8)
  | printForm (o : Outlet) (form : List Piece)
  | describe (o : Outlet)
  | prune
  | quit
  | delete
  | run (e : Errand)

/-- Does a step write or do something, so that nothing is printed unasked? -/
def Step.acts : Step → Bool
  | .print .. | .printForm .. | .describe _ | .delete | .run _ => true
  | _ => false

inductive Question
  | step (s : Step)
  | not (q : Question)
  | both (a b : Question)
  | either (a b : Question)
  | after (a b : Question)

/-- Which links are followed. -/
inductive Following
  | none
  | named
  | all
deriving DecidableEq

/-- A search: where it begins, how deep it goes, and what it asks. -/
structure Search where
  starts : List String
  following : Following
  least : Nat
  most : Option Nat
  insideFirst : Bool
  question : Question
  warnings : List String
  outlets : List Outlet

end Scratchpad.Shell.Finding
