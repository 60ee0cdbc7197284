import Scratchpad.Text.Utf8

/-!
# Arguments

An argument of a command line is an option with two dashes, which may bring a value after an equals
sign, a group of options of one letter, or plain text. Two dashes by themselves say that all that
follows is plain.
-/

namespace Scratchpad.CommandLine

inductive Argument
  | dashes
  | long (name : String) (value : Option String)
  | short (letters : List Char)
  | plain (text : String)
deriving DecidableEq, Repr

def Argument.ofString (s : String) : Argument :=
  match s.toList with
  | ['-', '-'] => .dashes
  | '-' :: '-' :: cs =>
    let name := cs.takeWhile (· ≠ '=')
    .long (String.ofList name) (match cs.drop name.length with
      | [] => none
      | _ :: value => some (String.ofList value))
  | '-' :: c :: cs => .short (c :: cs)
  | _ => .plain s

/-- Why a command line is not carried out: it is wrong, or it only asks to be told something. -/
inductive Stop
  | usage
  | tells (text : String)
deriving DecidableEq, Repr

/-- Sets what may be set once. -/
def setOnce {α : Type} (old : Option α) (new : α) : Except Stop (Option α) :=
  match old with
  | none => .ok (some new)
  | some _ => .error .usage

/-- A path has to have a name. -/
def nonEmpty (s : String) : Except Stop String :=
  if s = "" then .error .usage else .ok s

/-- The value of decimal digits, of which there is at least one. -/
def digits (cs : List Char) : Except Stop Nat :=
  if cs ≠ [] ∧ cs.all Char.isDigit then
    .ok (cs.foldl (fun n c => n * 10 + (c.toNat - '0'.toNat)) 0)
  else .error .usage

/-- A number with decimal digits, up to a greatest one; a plus sign may be in front. -/
def number (greatest : Nat) (s : String) : Except Stop Nat := do
  let n ← digits (match s.toList with
    | '+' :: cs => cs
    | cs => cs)
  if n ≤ greatest then return n else throw .usage

/-- A number that may have a minus sign in front too, which only zero can have. -/
def signedNumber (greatest : Nat) (s : String) : Except Stop Nat :=
  match s.toList with
  | '-' :: cs => do if (← digits cs) = 0 then return 0 else throw .usage
  | _ => number greatest s

/-- What a command did: its exit code and what it wrote. -/
structure Report where
  code : Nat
  stdout : Bytes
  stderr : Bytes
deriving DecidableEq, Repr

namespace Report

def wrong : Nat := 2

def failed : Nat := 1

/-- Success, with some text. -/
def said (text : Bytes) : Report := ⟨0, text, []⟩

/-- Failure, with some lines. -/
def complained (code : Nat) (text : String) : Report := ⟨code, [], Bytes.ofString text⟩

end Report

/-- A command line that was not carried out. -/
def Stop.report : Stop → Report
  | .usage => .complained Report.wrong "usage\n"
  | .tells text => .said (Bytes.ofString text)

end Scratchpad.CommandLine
