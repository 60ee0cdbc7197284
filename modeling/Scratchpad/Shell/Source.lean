import Scratchpad.Shell.Syntax

/-!
# Texts that are read

A script is read from the front of a text. The text keeps count of its lines, of the aliases whose
values are being read and of the documents that are still to come. The readers here take characters
or lines; those that take words and commands are made of them.
-/

namespace Scratchpad.Shell.Script

inductive Token
  | finish
  | newline
  | sign (text : String)
  | keyword (text : String)
  | redirection (holder : Option (List Char)) (fd : Option Nat) (kind : Redirection) (indented : Bool)
  | setting (s : Setting Word)
  | word (w : Word) (isPlain : Bool)

/-- An alias whose value is being read: how much text there was behind its name, and whether the word
after its value may be an alias as well. -/
structure Busy where
  name : List Char
  behind : Nat
  goesOn : Bool

/-- A document that has been asked for. -/
structure Awaited where
  id : Nat
  mark : List Char
  indented : Bool
  literal : Bool
  line : Nat

/-- A document that ended with the text, and where it began and ended. -/
structure CutOff where
  mark : List Char
  first : Nat
  last : Nat

/-- A text that stands in place of what was read between two places, which are told by how much text was
left there. -/
structure Patch where
  before : Nat
  after : Nat
  text : List Char

/-- A text that is being read. It keeps the text from the beginning of the line and from the beginning
of the last token, to show what is wrong. Where it is read verbatim, words are kept as they are written,
with patches for the commands in them. -/
structure Source where
  dialect : Dialect
  extended : Bool
  verbatim : Bool
  patches : List Patch
  rest : List Char
  line : Nat
  onLine : List Char
  lastLine : List Char
  seen : List Char
  back : Option Token
  aliases : List (List Char × List Char)
  busy : List Busy
  awaited : List Awaited
  documents : List (Nat × Word)
  serial : Nat
  cutOff : List CutOff

/-- What is wrong with a text, and in which line, and the line itself. -/
structure Flaw where
  fault : SyntaxFault
  line : Nat
  text : List Char

abbrev Reader := StateT Source (Except Flaw)

/-! ## Characters -/

def isMeta (c : Char) : Bool :=
  [' ', '\t', '\n', ';', '&', '|', '<', '>', '(', ')'].contains c

def isSpecial (c : Char) : Bool :=
  ['@', '*', '#', '?', '-', '$', '!'].contains c

/-- The same text, behind the ends of lines that go on. -/
def Source.joined (s : Source) : Source :=
  let rec drop : List Char → Nat → List Char × Nat
    | '\\' :: '\n' :: r, n => drop r (n + 1)
    | cs, n => (cs, n)
  let (rest, n) := drop s.rest 0
  if n = 0 then s else { s with rest, line := s.line + n, onLine := rest, lastLine := s.onLine }

/-- The next character, which is not taken. -/
def glance : Reader (Option Char) :=
  modifyGet fun s =>
    let s := s.joined
    (s.rest.head?, s)

def skip : Reader Unit :=
  modify fun s => { s with rest := s.rest.tail }

def endLine : Reader Unit :=
  modify fun s =>
    { s with rest := s.rest.tail, line := s.line + 1, onLine := s.rest.tail, lastLine := s.onLine }

def run (p : Char → Bool) : Reader (List Char) :=
  modifyGet fun s =>
    let cs := s.rest.takeWhile p
    (cs, { s with rest := s.rest.drop cs.length })

/-- Passes over blanks and a comment. -/
def blanks : Nat → Reader Unit
  | 0 => return
  | n + 1 => do
    match ← glance with
    | some ' ' | some '\t' =>
      skip
      blanks n
    | some '#' =>
      let _ ← run (· ≠ '\n')
    | _ => return

/-- Takes a character if it comes next. -/
def accept (c : Char) : Reader Bool := do
  if (← glance) = some c then
    skip
    return true
  else return false

/-- Takes a character if it comes next and may be taken. -/
def acceptIf (may : Bool) (c : Char) : Reader Bool :=
  if may then accept c else return false

/-- The characters of a kind that come next, also on lines that go on. -/
def gather (p : Char → Bool) : Nat → List Char → Reader (List Char)
  | 0, acc => return acc.reverse
  | n + 1, acc => do
    match ← glance with
    | some c =>
      if p c then
        skip
        gather p n (c :: acc)
      else return acc.reverse
    | none => return acc.reverse

/-! ## Texts as they are written -/

/-- Remembers what to show for the text since some was left. -/
def patch (before : Nat) (text : List Char) : Reader Unit :=
  modify fun s => { s with patches := ⟨before, s.rest.length, text⟩ :: s.patches }

/-- The text from a place up to where so much is left, with its patches, the first of them first. -/
def patched : List Patch → List Char → Nat → List Char
  | [], start, left => start.take (start.length - left)
  | p :: rest, start, left =>
    start.take (start.length - p.before) ++ p.text ++ patched rest (start.drop (start.length - p.after)) left

/-- What a reader has passed over, as it is written. -/
def written {α : Type} (read : Reader α) : Reader (List Char × α) := do
  let before ← get
  set { before with patches := [] }
  let found ← read
  let s ← get
  set { s with patches := before.patches }
  return (patched s.patches.reverse before.rest s.rest.length, found)

/-! ## Faults -/

def failAt {α : Type} (line : Nat) (fault : SyntaxFault) : Reader α := fun s =>
  .error ⟨fault, line, s.onLine.takeWhile (· ≠ '\n')⟩

def fail {α : Type} (fault : SyntaxFault) : Reader α := fun s => failAt s.line fault s

/-- How the last token is written. -/
def Source.passed (s : Source) : List Char :=
  s.seen.take (s.seen.length - s.rest.length)

/-- What is seen when a token comes that was not awaited; of words it shows how they are written. -/
def sightOf (s : Source) : Token → Sight
  | .finish => .finish
  | .newline => .newline
  | .sign text => .sign text
  | .keyword text => .keyword text
  | .redirection _ _ kind _ => .redirection kind.sign
  | .setting _ | .word _ _ => .word (ByteText.shown s.passed)

def unexpected {α : Type} (t : Token) (wanted : Option Sight) : Reader α := fun s =>
  match t, s.dialect with
  | .newline, .rich =>
    .error ⟨.unexpected .newline wanted, s.line - 1, s.lastLine.takeWhile (· ≠ '\n')⟩
  | t, _ => fail (.unexpected (sightOf s t) wanted) s

def isRich : Reader Bool := do
  return (← get).dialect = .rich

/-- Forgets the aliases whose values have been read; may the word that was read last be an alias after
one of them? -/
def leaveAliases : Reader Bool :=
  modifyGet fun s =>
    match s.busy with
    | [] => (false, s)
    | busy =>
      let left := s.rest.length
      (busy.any fun b => left < b.behind && b.goesOn,
        { s with busy := busy.filter fun b => b.behind ≤ left })

/-- The value of an alias that is not being read already. -/
def alias? (name : List Char) : Reader (Option (List Char)) := do
  let s ← get
  return if s.busy.any (·.name = name) then none else s.aliases.lookup name

/-- Goes on with the value of an alias. -/
def readAlias (name value : List Char) : Reader Unit :=
  modify fun s =>
    let goesOn := value.getLast?.any fun c => c = ' ' || c = '\t'
    { s with rest := value ++ s.rest, busy := ⟨name, s.rest.length, goesOn⟩ :: s.busy }

def putBack (t : Token) : Reader Unit :=
  modify fun s => { s with back := some t }

/-! ## Parts -/

/-- What encloses the parts that are being read: a word or the mark of a document; braces, which may
end at other characters too; quotes, or braces inside of them, where quotes take turns; an arithmetic
expression inside parentheses; a group of patterns; the index of a list; or nothing, as in a
document. -/
inductive Enclosure
  | word
  | mark
  | braces (stops : List Char)
  | quotes
  | quotedBraces (inner inDocument : Bool)
  | arithmetic (depth : Nat)
  | group
  | pattern (depth : Nat)
  | index (depth : Nat)
  | document
deriving DecidableEq, Repr

def Enclosure.endsAt : Enclosure → Char → Bool
  | .word, c | .mark, c => isMeta c
  | .braces stops, c => c = '}' || stops.contains c
  | .quotes, c => c = '"'
  | .quotedBraces inner _, c => c = '}' && !inner
  | .group, c => c = ')'
  | .pattern depth, c => depth = 0 && [' ', '\t', '\n', ')'].contains c
  | .index depth, c => c = ']' && depth = 0
  | .document, c => c = '\n'
  | .arithmetic _, _ => false

/-- Do single and double quotes quote here? -/
def Enclosure.hasQuotes : Enclosure → Bool
  | .word | .mark | .braces _ | .group | .pattern _ => true
  | _ => false

/-- Is everything quoted here? -/
def Enclosure.isQuoted : Enclosure → Bool
  | .quotes | .quotedBraces .. | .arithmetic _ | .document | .index _ => true
  | _ => false

/-- Characters that may mean something in a dialect. -/
def Enclosure.heeds (d : Dialect) (e : Enclosure) (c : Char) : Bool :=
  c = '\\' || c = '$' || c = '`' || c = '\n' || e.endsAt c ||
    match e with
    | .arithmetic _ => c = '(' || c = ')' || (d = .rich && c = '"')
    | .index _ => c = '[' || c = ']' || c = '"' || c = '\''
    | .quotedBraces .. => c = '"'
    | .pattern _ => c = '(' || c = ')' || c = '\'' || c = '"'
    | .document => false
    | .quotes => false
    | _ => c = '\'' || c = '"' || (d = .rich && ['?', '*', '+', '@', '!', '<', '>'].contains c)

/-- Does a backslash take away the meaning of a character, and vanish? -/
def Enclosure.frees (e : Enclosure) (c : Char) : Bool :=
  !e.isQuoted || c = '\\' || c = '`' || c = '$' ||
    match e with
    | .document => false
    | .quotedBraces .. => c = '"' || c = '}'
    | _ => c = '"'

/-- The same parts, with neighbouring texts joined. -/
def joinTexts : List Part → List Part
  | .text a :: rest =>
    match joinTexts rest with
    | .text b :: rest => .text (a ++ b) :: rest
    | rest => .text a :: rest
  | part :: rest => part :: joinTexts rest
  | [] => []

/-- The text of a word that is read as it stands, without quotes. -/
def plainText : List Part → List Char
  | [] => []
  | .text cs :: rest => cs ++ plainText rest
  | .quoted inner :: rest => plainText inner ++ plainText rest
  | _ :: rest => plainText rest

/-- Is a text a sign that starts a group of patterns? -/
def isGroupSign (cs : List Char) : Bool :=
  match cs with
  | c :: '(' :: _ => ['?', '*', '+', '@', '!'].contains c
  | _ => false

/-- The text up to a single quote, in which a backslash may stand for another character, and the text
behind it. The fuel bounds the characters. -/
def escapedQuote : Nat → List Char → List Char → Option (List Char × List Char)
  | 0, _, _ => none
  | _, _, [] => none
  | _, acc, '\'' :: r => some (acc.reverse, r)
  | fuel + 1, acc, '\\' :: c :: r =>
    let plain (d : Char) := escapedQuote fuel (d :: acc) r
    let code (found : Option (Nat × List Char)) (wide : Bool) :=
      match found with
      | some (n, r) =>
        if wide then
          escapedQuote fuel ((ByteText.ofCode n).reverse ++ acc) r
        else escapedQuote fuel (Char.ofNat (n % 256) :: acc) r
      | none => escapedQuote fuel (c :: '\\' :: acc) r
    match c with
    | 'a' => plain '\x07'
    | 'b' => plain '\x08'
    | 'e' | 'E' => plain '\x1b'
    | 'f' => plain '\x0c'
    | 'n' => plain '\n'
    | 'r' => plain '\r'
    | 't' => plain '\t'
    | 'v' => plain '\x0b'
    | '\\' | '\'' | '"' | '?' => plain c
    | 'x' => code (ByteText.numberIn 16 2 r) false
    | 'u' => code (ByteText.numberIn 16 4 r) true
    | 'U' => code (ByteText.numberIn 16 8 r) true
    | 'c' =>
      match r with
      | d :: r => escapedQuote fuel (Char.ofNat (d.toNat % 32) :: acc) r
      | [] => none
    | c =>
      if '0' ≤ c ∧ c ≤ '7' then code (ByteText.numberIn 8 3 (c :: r)) false
      else escapedQuote fuel (c :: '\\' :: acc) r
  | fuel + 1, acc, c :: r => escapedQuote fuel (c :: acc) r

/-- The text between backquotes without its escapes; inside of quotes a quote is escaped too. -/
def backquoted (quoted : Bool) : Nat → List Char → Reader (List Char)
  | 0, acc => return acc.reverse
  | fuel + 1, acc => do
    match ← glance with
    | none => fail (.unclosed '`')
    | some c =>
      if c = '`' then
        skip
        return acc.reverse
      else if c = '\\' then
        skip
        match (← get).rest with
        | d :: _ =>
          if d = '\n' then endLine else skip
          if d = '\\' || d = '`' || d = '$' || (quoted && d = '"') then backquoted quoted fuel (d :: acc)
          else backquoted quoted fuel (d :: '\\' :: acc)
        | [] => backquoted quoted fuel ('\\' :: acc)
      else
        if c = '\n' then endLine else skip
        backquoted quoted fuel (c :: acc)

/-! ## Documents -/

/-- A document's lines as they stand, up to its mark. -/
def literalLines (a : Awaited) : Nat → List Char → Reader (List Char)
  | 0, acc => return acc
  | fuel + 1, acc => do
    let s ← get
    if s.rest = [] then
      modify fun s => { s with cutOff := s.cutOff ++ [⟨a.mark, a.line, s.line - 1⟩] }
      return acc
    else
      let line := s.rest.takeWhile (· ≠ '\n')
      let rest := s.rest.drop line.length
      set { s with rest }
      if rest ≠ [] then endLine
      let line := if a.indented then line.dropWhile (· = '\t') else line
      if line = a.mark then return acc
      else literalLines a fuel (acc ++ line ++ (if rest = [] then [] else ['\n']))

/-- Is this the line that ends a document? If so, it is passed over. -/
def atMark (a : Awaited) : Reader Bool := do
  let _ ← glance
  if a.indented then
    let _ ← run (· = '\t')
  let s ← get
  if a.mark.isPrefixOf s.rest then
    match s.rest.drop a.mark.length with
    | [] =>
      set { s with rest := [] }
      return true
    | '\n' :: _ =>
      set { s with rest := s.rest.drop a.mark.length }
      endLine
      return true
    | _ => return false
  else return false

/-! ## What a word begins with -/

/-- The operators of conditions with one argument and with two. -/
def unaryConditions : List String :=
  ["-a", "-b", "-c", "-d", "-e", "-f", "-g", "-h", "-k", "-n", "-o", "-p", "-r", "-s", "-t", "-u",
    "-v", "-w", "-x", "-z", "-G", "-L", "-N", "-O", "-R", "-S"]

def binaryConditions : List String :=
  ["=", "==", "!=", "=~", "-eq", "-ne", "-lt", "-le", "-gt", "-ge", "-ef", "-nt", "-ot"]

/-- Commands that declare variables: among their arguments lists are allowed. -/
def declarers : List String :=
  ["declare", "typeset", "local", "export", "readonly"]

/-- A setting in front of a text: the name, the index as it is written, and whether the value is
added; then the text behind the sign. -/
def settingIn? (cs : List Char) : Option (List Char × Option (List Char) × Bool × List Char) :=
  let name := cs.takeWhile isNameChar
  if !isName name then none
  else
    let rest := cs.drop name.length
    let (index, rest) :=
      match rest with
      | '[' :: r =>
        match bracket 0 [] r with
        | some (inner, r) => (some inner, r)
        | none => (none, rest)
      | r => (none, r)
    match rest with
    | '=' :: r => some (name, index, false, r)
    | '+' :: '=' :: r => some (name, index, true, r)
    | _ => none
where
  /-- The text up to a closing bracket. -/
  bracket (depth : Nat) (acc : List Char) : List Char → Option (List Char × List Char)
    | [] => none
    | '\n' :: _ => none
    | ']' :: r =>
      match depth with
      | 0 => some (acc.reverse, r)
      | depth + 1 => bracket depth (']' :: acc) r
    | '[' :: r => bracket (depth + 1) ('[' :: acc) r
    | c :: r => bracket depth (c :: acc) r

/-- Which token ends a list of commands? -/
def Token.endsList : Token → Bool
  | .finish => true
  | .sign text => [")", ";;", ";&", ";;&"].contains text
  | .keyword text => ["then", "elif", "else", "fi", "do", "done", "\x7d", "esac"].contains text
  | _ => false

def Token.isSign (text : String) : Token → Bool
  | .sign t => t = text
  | _ => false

def Token.isKeyword (text : String) : Token → Bool
  | .keyword t => t = text
  | _ => false

/-- Commands whose names may not be taken for functions. -/
def specialNames : List String :=
  [".", ":", "break", "continue", "eval", "exec", "exit", "export", "readonly", "return", "set",
    "shift", "times", "trap", "unset"]

end Scratchpad.Shell.Script
