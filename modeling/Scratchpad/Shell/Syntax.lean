import Scratchpad.Shell.ByteText

/-!
# Commands

A script is a list of commands. A command is made of words, and a word of parts, some of which stand
for text that is known only when the command runs. There are two dialects of scripts: all commands
and parts of the plain one belong to the rich one too, in which there are lists, conditions and
calculations as well. Commands know the line they are in, for what is said of them when they fail.
-/

namespace Scratchpad.Shell

inductive Dialect
  | plain
  | rich
deriving DecidableEq, Repr

/-- A parameter that a part asks for: its name, and which member of it if it is a list. An indirect
one is named by the value of another. -/
structure Reference (α : Type) where
  name : List Char
  index : Option α
  indirect : Bool

/-- What an expansion makes of the value of a parameter. -/
inductive Change (α : Type)
  | instead (mark : List Char) (other : α)
  | strip (front longest : Bool) (pattern : α)
  | slice (start : α) (size : Option α)
  | replace (mark : Option Char) (pattern other : α)
  | recase (up all : Bool) (pattern : α)
  | transform (letter : Char)

/-- What a variable is set to: a word, or a list of words, each of which may have a key. -/
inductive Assigned (α : Type)
  | word (w : α)
  | list (items : List (Option α × α))

structure Setting (α : Type) where
  name : List Char
  index : Option α
  adds : Bool
  value : Assigned α

inductive Redirection
  | write
  | force
  | append
  | read
  | both
  | duplicateOut
  | duplicateIn
  | here
  | hereText
  | writeBoth
  | appendBoth
deriving DecidableEq, Repr

/-- A redirection of a descriptor. One that has a holder is of a descriptor that is free, whose number the
variable of that name is set to. -/
structure Redirect (α : Type) where
  fd : Nat
  kind : Redirection
  target : α
  holder : Option (List Char) := none

/-- What is asked about words. -/
inductive Condition (α : Type)
  | word (a : α)
  | unary (operator : String) (a : α)
  | binary (operator : String) (a b : α)
  | inner (c : Condition α)
  | not (c : Condition α)
  | both (a b : Condition α)
  | either (a b : Condition α)

/-- How a choice goes on behind one of its arms: it ends, goes on with the commands of the next arm, or
looks at the patterns of those that are left. -/
inductive ArmEnd
  | stop
  | into
  | onward
deriving DecidableEq, Repr

structure Arm (α β : Type) where
  patterns : List α
  body : β
  ending : ArmEnd

mutual

/-- A part of a word. The text of a document that follows a command is known by a number. -/
inductive Part
  | text (cs : List Char)
  | quoted (inner : List Part)
  | parameter (r : Reference (List Part)) (change : Option (Change (List Part)))
  | size (r : Reference (List Part))
  | names (lead : List Char) (apart : Bool)
  | keys (name : List Char) (apart : Bool)
  | arithmetic (inner : List Part)
  | output (script : Command)
  | channel (script : Command)
  | document (id : Nat)
  | bad (written : List Char)

/-- A command. Loops and choices keep how what they go through is written, and functions the text from
their bodies on. -/
inductive Command
  | simple (line : Nat) (settings : List (Setting (List Part))) (words : List (List Part))
      (declared : List (Setting (List Part))) (redirects : List (Redirect (List Part)))
  | pipe (stages : List Command)
  | negate (c : Command)
  | both (a b : Command)
  | either (a b : Command)
  | sequence (items : List Command)
  | background (c : Command)
  | subshell (body : Command)
  | group (body : Command)
  | redirected (line : Nat) (c : Command) (redirects : List (Redirect (List Part)))
  | branch (test yes no : Command)
  | loop (test : Command) (stopOn : Bool) (body : Command)
  | each (line : Nat) (name : List Char) (words : Option (List (List Part))) (body : Command)
      (head : List Char)
  | count (line : Nat) (start test step : List Part) (body : Command)
  | choose (line : Nat) (subject : List Part) (arms : List (Arm (List Part) Command)) (head : List Char)
  | calculate (line : Nat) (expression : List Part)
  | ask (line : Nat) (condition : Condition (List Part))
  | select (line : Nat) (name : List Char) (words : Option (List (List Part))) (body : Command)
      (head : List Char)
  | define (name : List Char) (body : Command) (written : List Char)
  | timed (brief : Bool) (c : Command)

end

abbrev Word := List Part

/-- How a redirection is written. -/
def Redirection.sign : Redirection → String
  | .write => ">"
  | .force => ">|"
  | .append => ">>"
  | .read => "<"
  | .both => "<>"
  | .duplicateOut => ">&"
  | .duplicateIn => "<&"
  | .here => "<<"
  | .hereText => "<<<"
  | .writeBoth => "&>"
  | .appendBoth => "&>>"

/-! ## Names -/

def isNameStart (c : Char) : Bool :=
  c.isAlpha || c = '_'

def isNameChar (c : Char) : Bool :=
  c.isAlphanum || c = '_'

def isName (cs : List Char) : Bool :=
  cs.head?.any isNameStart && cs.all isNameChar

/-- The name that a text sets, if it sets one, and what follows the sign. -/
def setting? (cs : List Char) : Option (List Char × List Char) :=
  let name := cs.takeWhile isNameChar
  match cs.drop name.length with
  | '=' :: r => if isName name then some (name, r) else none
  | _ => none

/-- The words that begin or part commands. -/
def reserved : List String :=
  ["if", "then", "elif", "else", "fi", "while", "until", "do", "done", "for", "in", "\x7b", "\x7d",
    "!", "case", "esac"]

/-- The words that do so in one of the dialects. -/
def Dialect.reserved : Dialect → List String
  | .plain => Shell.reserved
  | .rich => Shell.reserved ++ ["[[", "function", "time", "select"]

/-! ## What is wrong with a text -/

/-- What is seen in front of a text. -/
inductive Sight
  | finish
  | newline
  | sign (text : String)
  | redirection (text : String)
  | keyword (text : String)
  | word (text : String)
deriving DecidableEq, Repr

/-- Why a text is not a script. -/
inductive SyntaxFault
  | unexpected (seen : Sight) (wanted : Option Sight)
  | unclosed (mark : Char)
  | missing (mark : String)
  | loopVariable
  | functionName
  | badDescriptor
  | arithmeticLoop (written : String)
  | condition (said : String) (near : Sight)
deriving DecidableEq, Repr

def Sight.described : Sight → String
  | .finish => "end of file"
  | .newline => "newline"
  | .sign text | .keyword text => "\"" ++ text ++ "\""
  | .redirection _ => "redirection"
  | .word _ => "word"

/-- What is seen, as the rich dialect names it. -/
def Sight.written : Sight → String
  | .finish => "end of file"
  | .newline => "newline"
  | .sign text | .keyword text | .word text | .redirection text => text

/-- The complaint of the plain dialect. -/
def SyntaxFault.message : SyntaxFault → String
  | .unexpected seen none => "Syntax error: " ++ seen.described ++ " unexpected"
  | .unexpected seen (some wanted) =>
    "Syntax error: " ++ seen.described ++ " unexpected (expecting " ++ wanted.described ++ ")"
  | .unclosed c =>
    if c = '`' then "Syntax error: EOF in backquote substitution"
    else "Syntax error: Unterminated quoted string"
  | .missing mark => "Syntax error: Missing '" ++ mark ++ "'"
  | .loopVariable => "Syntax error: Bad for loop variable"
  | .functionName => "Syntax error: Bad function name"
  | .badDescriptor => "Syntax error: Bad fd number"
  | .arithmeticLoop _ => "Syntax error: Bad for loop variable"
  | .condition said _ => "Syntax error: " ++ said

/-- The complaints of the rich dialect, of which `lead` tells where the text comes from; `text` is the
line that is at fault. -/
def SyntaxFault.richMessages (lead text : String) : SyntaxFault → List String
  | .unexpected .finish _ => [lead ++ "syntax error: unexpected end of file"]
  | .unexpected seen _ =>
    [lead ++ "syntax error near unexpected token `" ++ seen.written ++ "'",
      lead ++ "`" ++ text ++ "'"]
  | .unclosed c => [lead ++ "unexpected EOF while looking for matching `" ++ String.singleton c ++ "'"]
  | .missing mark =>
    [lead ++ "unexpected EOF while looking for matching `" ++
      String.ofList (mark.toList.take 1) ++ "'"]
  | .loopVariable => [lead ++ "syntax error: bad loop variable"]
  | .functionName => [lead ++ "syntax error: bad function name"]
  | .badDescriptor => [lead ++ "syntax error: bad descriptor"]
  | .arithmeticLoop written =>
    [lead ++ "syntax error: arithmetic expression required",
      lead ++ "syntax error: `" ++ written ++ "'"]
  | .condition said near =>
    (if said = "" then [] else [lead ++ said]) ++ [lead ++ "syntax error near `" ++ near.written ++ "'", lead ++ "`" ++ text ++ "'"]

end Scratchpad.Shell
