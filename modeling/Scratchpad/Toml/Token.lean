import Scratchpad.Text.Character

/-!
# TOML tokens

The lexical part of TOML 1.1: marks, runs of blanks, line breaks, strings in their four forms, and
atoms, which are the bare keys and unquoted scalars. Comments are checked and dropped. The scanner
takes one character at a time. A line break is `LF` or `CR LF`; inside a string it is kept as it is
written.
-/

namespace Scratchpad.Toml

inductive Token
  | newline
  | blank (text : List Char)
  | mark (c : Char)
  | atom (text : List Char)
  | text (s : String) (multiline : Bool)
deriving DecidableEq, Repr

namespace Token

/-- Where the scanner stands. Texts are kept last character first; `literal` tells the strings in
single quotes, which know no escapes. -/
inductive Mode
  | between
  | blank (acc : List Char)
  | atom (acc : List Char)
  | comment
  | carriage
  /-- One or two quotes that may open a string, be an empty one, or open a multi-line one. -/
  | quotes (literal : Bool) (count : Nat)
  | line (literal : Bool) (acc : List Char)
  | escape (multiline : Bool) (acc : List Char)
  | hex (multiline : Bool) (acc : List Char) (left : Nat) (code : Nat)
  /-- The beginning of a multi-line string, where one line break is dropped. -/
  | first (literal : Bool)
  | firstCarriage (literal : Bool)
  | body (literal : Bool) (acc : List Char)
  | bodyCarriage (literal : Bool) (acc : List Char)
  /-- A run of quotes in a multi-line string; the last three of at most five close it. -/
  | closing (literal : Bool) (acc : List Char) (count : Nat)
  /-- After a backslash that ends its line: blanks are dropped until the line has ended, and from
  then on line breaks too. -/
  | folding (acc : List Char) (crossed : Bool)
  | foldingCarriage (acc : List Char)

structure Scanner where
  tokens : List Token
  mode : Mode

namespace Scanner

def start : Scanner := ⟨[], .between⟩

def isControl (c : Char) : Bool :=
  c.toNat < 0x20 || c.toNat == 0x7F

/-- A character that comments and strings may hold as it is. -/
def isPlain (c : Char) : Bool :=
  c == '\t' || !isControl c

def quoteOf (literal : Bool) : Char :=
  if literal then '\'' else '"'

def textToken (acc : List Char) (multiline : Bool) : Token :=
  .text (String.ofList acc.reverse) multiline

def isMark (c : Char) : Bool :=
  c == '.' || c == '=' || c == ',' || c == '[' || c == ']' || c == '{' || c == '}'

def isBlank (c : Char) : Bool :=
  c == ' ' || c == '\t'

/-- A character where a token may begin. -/
def begin (tokens : List Token) (c : Char) : Scanner :=
  if isMark c then ⟨.mark c :: tokens, .between⟩
  else if isBlank c then ⟨tokens, .blank [c]⟩
  else if c = '\n' then ⟨.newline :: tokens, .between⟩
  else if c = '\r' then ⟨tokens, .carriage⟩
  else if c = '#' then ⟨tokens, .comment⟩
  else if c = '"' then ⟨tokens, .quotes false 1⟩
  else if c = '\'' then ⟨tokens, .quotes true 1⟩
  else ⟨tokens, .atom [c]⟩

def endsAtom (c : Char) : Bool :=
  isMark c || isBlank c || c == '\n' || c == '\r' || c == '#' || c == '"' || c == '\''

/-- A character of a string on one line. -/
def stepLine (tokens : List Token) (literal : Bool) (acc : List Char) (c : Char) :
    Option Scanner :=
  if c = quoteOf literal then some ⟨textToken acc false :: tokens, .between⟩
  else if c = '\\' && !literal then some ⟨tokens, .escape false acc⟩
  else if isPlain c then some ⟨tokens, .line literal (c :: acc)⟩
  else none

/-- A character of a string over several lines. -/
def stepBody (tokens : List Token) (literal : Bool) (acc : List Char) (c : Char) :
    Option Scanner :=
  if c = quoteOf literal then some ⟨tokens, .closing literal acc 1⟩
  else if c = '\\' && !literal then some ⟨tokens, .escape true acc⟩
  else if c = '\r' then some ⟨tokens, .bodyCarriage literal acc⟩
  else if c = '\n' || isPlain c then some ⟨tokens, .body literal (c :: acc)⟩
  else none

def inString (multiline : Bool) (acc : List Char) : Mode :=
  if multiline then .body false acc else .line false acc

/-- The character that a one-letter escape stands for. -/
def escaped? (c : Char) : Option Char :=
  match c with
  | 'b' => some '\x08'
  | 't' => some '\t'
  | 'n' => some '\n'
  | 'f' => some '\x0c'
  | 'r' => some '\r'
  | 'e' => some '\x1b'
  | '"' => some '"'
  | '\\' => some '\\'
  | _ => none

/-- How many hexadecimal digits follow an escape of this letter. -/
def hexLength? (c : Char) : Option Nat :=
  match c with
  | 'x' => some 2
  | 'u' => some 4
  | 'U' => some 8
  | _ => none

def stepEscape (tokens : List Token) (multiline : Bool) (acc : List Char) (c : Char) :
    Option Scanner :=
  match escaped? c, hexLength? c with
  | some d, _ => some ⟨tokens, inString multiline (d :: acc)⟩
  | none, some n => some ⟨tokens, .hex multiline acc n 0⟩
  | none, none =>
    if !multiline then none
    else if c = '\n' then some ⟨tokens, .folding acc true⟩
    else if c = '\r' then some ⟨tokens, .foldingCarriage acc⟩
    else if isBlank c then some ⟨tokens, .folding acc false⟩
    else none

/-- The last digit of an escape must complete the code of a character. -/
def stepHex (tokens : List Token) (multiline : Bool) (acc : List Char) (left code : Nat)
    (c : Char) : Option Scanner := do
  let code := code * 16 + (← Text.hexValue? c)
  if left = 1 then
    if code.isValidChar then some ⟨tokens, inString multiline (Char.ofNat code :: acc)⟩
    else none
  else some ⟨tokens, .hex multiline acc (left - 1) code⟩

/-- A character after `count` quotes in a multi-line string. -/
def stepClosing (tokens : List Token) (literal : Bool) (acc : List Char) (count : Nat)
    (c : Char) : Option Scanner :=
  let quote := quoteOf literal
  if c = quote then
    if count = 4 then some ⟨textToken (quote :: quote :: acc) true :: tokens, .between⟩
    else some ⟨tokens, .closing literal acc (count + 1)⟩
  else if count < 3 then stepBody tokens literal (List.replicate count quote ++ acc) c
  else some (begin (textToken (List.replicate (count - 3) quote ++ acc) true :: tokens) c)

def step (s : Scanner) (c : Char) : Option Scanner :=
  match s.mode with
  | .between => some (begin s.tokens c)
  | .blank acc =>
    if isBlank c then some ⟨s.tokens, .blank (c :: acc)⟩
    else some (begin (.blank acc.reverse :: s.tokens) c)
  | .atom acc =>
    if endsAtom c then some (begin (.atom acc.reverse :: s.tokens) c)
    else some ⟨s.tokens, .atom (c :: acc)⟩
  | .comment =>
    if c = '\n' then some ⟨.newline :: s.tokens, .between⟩
    else if c = '\r' then some ⟨s.tokens, .carriage⟩
    else if isPlain c then some s
    else none
  | .carriage => if c = '\n' then some ⟨.newline :: s.tokens, .between⟩ else none
  | .quotes literal count =>
    if c = quoteOf literal then
      some ⟨s.tokens, if count = 1 then .quotes literal 2 else .first literal⟩
    else if count = 1 then stepLine s.tokens literal [] c
    else some (begin (.text "" false :: s.tokens) c)
  | .line literal acc => stepLine s.tokens literal acc c
  | .escape multiline acc => stepEscape s.tokens multiline acc c
  | .hex multiline acc left code => stepHex s.tokens multiline acc left code c
  | .first literal =>
    if c = '\n' then some ⟨s.tokens, .body literal []⟩
    else if c = '\r' then some ⟨s.tokens, .firstCarriage literal⟩
    else stepBody s.tokens literal [] c
  | .firstCarriage literal => if c = '\n' then some ⟨s.tokens, .body literal []⟩ else none
  | .body literal acc => stepBody s.tokens literal acc c
  | .bodyCarriage literal acc =>
    if c = '\n' then some ⟨s.tokens, .body literal ('\n' :: '\r' :: acc)⟩ else none
  | .closing literal acc count => stepClosing s.tokens literal acc count c
  | .folding acc crossed =>
    if isBlank c then some s
    else if c = '\n' then some ⟨s.tokens, .folding acc true⟩
    else if c = '\r' then some ⟨s.tokens, .foldingCarriage acc⟩
    else if crossed then stepBody s.tokens false acc c
    else none
  | .foldingCarriage acc => if c = '\n' then some ⟨s.tokens, .folding acc true⟩ else none

def finish (s : Scanner) : Option (List Token) :=
  match s.mode with
  | .between => some s.tokens.reverse
  | .blank acc => some (.blank acc.reverse :: s.tokens).reverse
  | .atom acc => some (.atom acc.reverse :: s.tokens).reverse
  | .comment => some s.tokens.reverse
  | .quotes _ 2 => some (.text "" false :: s.tokens).reverse
  | .closing literal acc count =>
    if count < 3 then none
    else
      some (textToken (List.replicate (count - 3) (quoteOf literal) ++ acc) true ::
        s.tokens).reverse
  | _ => none

end Scanner

/-- The tokens of a text, or `none` when a string, an escape, a comment or a line break is not well
formed. -/
def scan (cs : List Char) : Option (List Token) := do
  (← cs.foldlM Scanner.step .start).finish

end Token
end Scratchpad.Toml
