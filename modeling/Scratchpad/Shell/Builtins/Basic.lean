import Scratchpad.Shell.Expansion
import Scratchpad.Shell.Format

/-!
# Built-in commands

A built-in command is carried out by the shell itself. What several of them do: reading options and
numbers, complaining, and telling how they are used. The plain dialect ends at faults of its special
commands, the rich one goes on.
-/

namespace Scratchpad.Shell.Builtins

/-- A built-in command: its arguments and the state before it. -/
abbrev Builtin := List (List Char) → State → State

/-- Writes to the output of a command, which fails if it is closed. -/
def say (name : String) (bytes : Bytes) (status : Nat) (st : State) : State :=
  if bytes ≠ [] ∧ st.sink? 1 = none then
    (st.complain (if st.isRich then name ++ ": write error: Bad file descriptor"
      else name ++ ": " ++ name ++ ": I/O error")).withStatus 1
  else (st.write 1 bytes).withStatus status

def sayText (name text : String) (status : Nat) (st : State) : State :=
  say name (Bytes.ofString text) status st

/-- A complaint, and the status that goes with it. -/
def fails (name text : String) (status : Nat) (st : State) : State :=
  (st.complain (name ++ ": " ++ text)).withStatus status

/-- A complaint that says how a command is used. -/
def misused (name text usage : String) (st : State) : State :=
  let st := if text = "" then st else st.complain (name ++ ": " ++ text)
  (st.write 2 (Bytes.ofString (name ++ ": usage: " ++ usage ++ "\n"))).withStatus 2

/-! ## Numbers -/

def isSpace (c : Char) : Bool :=
  c = ' ' || ('\t' ≤ c && c ≤ '\r')

/-- The whole number in 64 bits that an argument stands for; there may be blanks around it and a sign
in front. -/
def integer? (cs : List Char) : Option Int :=
  let cs := cs.dropWhile isSpace
  let (negative, digits) := match cs with
    | '-' :: r => (true, r)
    | '+' :: r => (false, r)
    | r => (false, r)
  let number := digits.takeWhile Char.isDigit
  if number = [] || !(digits.drop number.length).all isSpace then none
  else
    let n : Nat := number.foldl (fun n c => n * 10 + (c.toNat - '0'.toNat)) 0
    if negative then (if n ≤ 9223372036854775808 then some (-n) else none)
    else if n ≤ 9223372036854775807 then some n
    else none

/-- The count that an argument stands for. -/
def count? (cs : List Char) : Option Nat :=
  match integer? cs with
  | some (.ofNat n) => if n ≤ 2147483647 then some n else none
  | _ => none

/-- The number that an argument of a command has to be. -/
def withNumber (name : String) (arg : List Char) (st : State) (f : Nat → State) : State :=
  match count? arg with
  | some n => f n
  | none => st.abort (name ++ ": Illegal number: " ++ ByteText.shown arg)

/-! ## Options -/

/-- The letters in front of some arguments, each with its value if it takes one, and the arguments
behind them; `known` lists the letters, those that take a value with a colon behind. Gives the complaint
if there is another one. -/
def letters (rich : Bool) (known : List Char) :
    List (List Char) → List (Char × List Char) →
      Except String (List (Char × List Char) × List (List Char))
  | [], acc => .ok (acc.reverse, [])
  | ['-'] :: rest, acc => .ok (acc.reverse, ['-'] :: rest)
  | ['-', '-'] :: rest, acc => .ok (acc.reverse, rest)
  | ('-' :: cluster) :: rest, acc =>
    match split cluster with
    | .error c =>
      .error (if rich then "-" ++ String.singleton c ++ ": invalid option"
        else "Illegal option -" ++ String.singleton c)
    | .ok (plain, none) => letters rich known rest (plain.reverse.map (·, []) ++ acc)
    | .ok (plain, some (c, [])) =>
      match rest with
      | value :: rest => letters rich known rest ((c, value) :: plain.reverse.map (·, []) ++ acc)
      | [] =>
        .error (if rich then "-" ++ String.singleton c ++ ": option requires an argument"
          else "No arg for -" ++ String.singleton c ++ " option")
    | .ok (plain, some (c, value)) =>
      letters rich known rest ((c, value) :: plain.reverse.map (·, []) ++ acc)
  | rest, acc => .ok (acc.reverse, rest)
where
  /-- The letters up to one that takes a value, and that one with the rest of the text. -/
  split : List Char → Except Char (List Char × Option (Char × List Char))
    | [] => .ok ([], none)
    | c :: r =>
      match known.dropWhile (· ≠ c) with
      | [] => .error c
      | _ :: ':' :: _ => if c = ':' then .error c else .ok ([], some (c, r))
      | _ => if c = ':' then .error c else (split r).map fun (cs, found) => (c :: cs, found)

/-- Reads the options of a command; a wrong one is complained of, which ends the shell of the plain
dialect if the command is a special one. -/
def reading (name : String) (special : Bool) (known usage : String) (args : List (List Char))
    (st : State) (f : List (Char × List Char) → List (List Char) → State) : State :=
  match letters st.isRich known.toList args [] with
  | .ok (found, rest) => f found rest
  | .error text =>
    if st.isRich then misused name text usage st
    else if special then st.abort (name ++ ": " ++ text)
    else fails name text 2 st

def asked (found : List (Char × List Char)) (c : Char) : Bool :=
  found.any (·.1 = c)

/-- What the rich dialect says of a text that cannot be a name. -/
def notAName (cs : List Char) : String :=
  "`" ++ ByteText.shown cs ++ "': not a valid identifier"

/-- Gives a variable a value, unless it is frozen; `who` is the command that does it. -/
def assignBy (who : String) (name value : List Char) (st : State) : State :=
  if st.frozen.contains name then
    if st.isRich then (st.complain (who ++ ": " ++ ByteText.shown name ++ ": readonly variable")
      ).withStatus 1
    else (st.complain (who ++ ": " ++ State.frozenText name)).withStatus 2
  else st.set name value

end Scratchpad.Shell.Builtins
