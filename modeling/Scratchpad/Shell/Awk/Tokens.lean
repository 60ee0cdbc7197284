import Scratchpad.Shell.Awk.Program

/-!
# Words of the record language

A program is read as a list of words with the lines they are in. Whether a slash divides or begins a
pattern depends on the word before it.
-/

namespace Scratchpad.Shell.Awk

/-- A place in the text of a program, which may be in a file. -/
structure Position where
  file : Option String
  line : Nat
deriving DecidableEq

/-- What can be wrong with a text. -/
inductive Cause
  | near (word : String)
  | extra (mark : String)
  | missing (mark word : String)
  | runaway (what text : String)
  | alien (text : String)
  | decimal (text : String)
  | tooLarge (text : String)
  | tooSmall (text : String)
  | outside (what place : String)
  | improper (what : String)
  | noArguments (name : String)
  | illegal (what name : String)
  | duplicate (name : String)
  | redefined (name : String)
  | tooMany (name : String)
  | mismatch (arg : Nat) (name : String)
  | arity (name : String)
  | undefined (name : String)
  | pattern (fault : Pattern.Fault) (text : Bytes)
deriving DecidableEq

/-- Why a text is no program. -/
structure SyntaxFault where
  cause : Cause
  position : Position
deriving DecidableEq

inductive Token
  | number (x : Floating) (text : String)
  | quoted (bytes : Bytes)
  | pattern (bytes : Bytes)
  | keyword (word : String)
  | intrinsic (f : Intrinsic) (name : String)
  | name (name : String)
  | callee (name : String)
  | sign (text : String)
  | newline
  /-- No word, but it stands where one should. -/
  | broken (cause : Cause)
  /-- Something that is wrong in front of the next word. -/
  | flaw (cause : Cause)
deriving DecidableEq

/-- A word and the place where it is. -/
structure Lexeme where
  token : Token
  position : Position

def shownText (bytes : Bytes) : String :=
  String.ofList (Text.Utf8.lossy bytes)

/-- How a word is shown in a complaint. -/
def Token.shown : Token → String
  | .number _ text => text
  | .quoted bytes => shownText bytes
  | .pattern bytes => "/" ++ shownText bytes ++ "/"
  | .name "NF" => "$"
  | .keyword word | .name word | .callee word | .intrinsic _ word => word
  | .sign text => text
  | .newline | .broken _ | .flaw _ => "end of line"

/-- What is wrong with a pattern. -/
def patternComplaint : Pattern.Fault → String
  | .bracket | .emptyBracket | .className | .range => "bad class -- [], [^] or ["
  | .parenthesis => "missing ')'"
  | .closing => "missing '('"
  | _ => "missing operand"

def Cause.message : Cause → String
  | .near word => "syntax error at or near " ++ word
  | .extra mark => "extra '" ++ mark ++ "'"
  | .missing mark word => "missing " ++ mark ++ " near " ++ word
  | .runaway what text => "runaway " ++ what ++ " " ++ text ++ " ..."
  | .alien text => "unexpected character '" ++ text ++ "'"
  | .decimal text => "syntax error in decimal constant " ++ text
  | .tooLarge text => text ++ " : decimal overflow"
  | .tooSmall text => text ++ " : decimal underflow"
  | .outside what place => what ++ " outside " ++ place
  | .improper what => "improper use of " ++ what
  | .noArguments name => "no arguments in call to " ++ name
  | .illegal what name => "illegal reference to " ++ what ++ " " ++ name
  | .duplicate name => name ++ " is duplicated in argument list"
  | .redefined name => "redefinition of " ++ name
  | .tooMany name => "too many arguments in call to " ++ name
  | .mismatch arg name => "type error in arg(" ++ arg.repr ++ ") in call to " ++ name
  | .arity name => "wrong number of arguments in call to " ++ name
  | .undefined name => "function " ++ name ++ " never defined"
  | .pattern fault text =>
    "regular expression compile failed (" ++ patternComplaint fault ++ ")\n" ++ shownText text

def SyntaxFault.message (f : SyntaxFault) : String :=
  match f.cause with
  | .alien _ => f.position.line.repr ++ ": " ++ f.cause.message
  | cause =>
    ((f.position.file.map (· ++ ": ")).getD "") ++ "line " ++ f.position.line.repr ++ ": " ++ cause.message

def keywords : List String :=
  ["BEGIN", "END", "function", "if", "else", "while", "for", "do", "break", "continue",
    "next", "nextfile", "exit", "return", "delete", "in", "getline", "print", "printf"]

def intrinsics : List (String × Intrinsic) :=
  [("length", .length), ("substr", .substr), ("index", .index), ("split", .split), ("sub", .sub),
    ("gsub", .gsub), ("match", .matching), ("sprintf", .sprintf), ("sin", .sin), ("cos", .cos),
    ("atan2", .arctan), ("exp", .exp), ("log", .log), ("sqrt", .sqrt), ("int", .int),
    ("rand", .rand), ("srand", .seed), ("tolower", .lower), ("toupper", .upper),
    ("system", .system), ("close", .close), ("fflush", .flush), ("mktime", .timeOf),
    ("strftime", .timeText), ("systime", .now)]

/-- The signs, longer ones before those they begin with. -/
def signs : List String :=
  ["&&", "||", "++", "--", "+=", "-=", "*=", "/=", "%=", "^=", "==", "<=", ">=", "!=", "!~", ">>",
    "\x7b", "\x7d", "(", ")", "[", "]", ";", ",", "+", "-", "*", "/", "%", "^", "!", ">", "<", "|",
    "?", ":", "~", "$", "="]

/-- May a pattern stand behind a word? Behind what can be divided a slash divides. -/
def Token.beforePattern : Token → Bool
  | .number .. | .quoted _ | .pattern _ | .name _ | .intrinsic .. => false
  | .keyword word => word ≠ "getline"
  | .sign text => ! [")", "]", "$", "++", "--"].contains text
  | _ => true

/-- What an escape in a text stands for, and what follows it; the backslash stays in front of what
needs none. -/
def escape (cs : Bytes) : Bytes × Bytes :=
  match cs with
  | [] => ([0x5C], [])
  | c :: r =>
    let isOctal (b : UInt8) : Bool := 0x30 ≤ b && b ≤ 0x37
    let digits := (cs.take 3).takeWhile isOctal
    if digits ≠ [] then
      let n := digits.foldl (fun n b => n * 8 + (b.toNat - 0x30)) 0
      ([UInt8.ofNat (n % 256)], cs.drop digits.length)
    else
      match Char.ofNat c.toNat with
      | 'n' => ([10], r)
      | 't' => ([9], r)
      | 'r' => ([13], r)
      | 'a' => ([7], r)
      | 'b' => ([8], r)
      | 'f' => ([12], r)
      | 'v' => ([11], r)
      | '\\' => ([0x5C], r)
      | '"' => ([0x22], r)
      | '\n' => ([], r)
      | 'x' =>
        let hex (b : UInt8) : Option Nat := Text.hexValue? (Char.ofNat b.toNat)
        let digits := (r.take 2).takeWhile fun b => (hex b).isSome
        if digits = [] then ([0x5C, c], r)
        else
          ([UInt8.ofNat (digits.foldl (fun n b => n * 16 + (hex b).getD 0) 0)], r.drop digits.length)
      | _ => ([0x5C, c], r)

/-- A text with its escapes read. -/
def unescape : Nat → Bytes → Bytes
  | 0, cs => cs
  | _, [] => []
  | fuel + 1, 0x5C :: cs =>
    let (bytes, rest) := escape cs
    bytes ++ unescape fuel rest
  | fuel + 1, b :: cs => b :: unescape fuel cs

/-- The bytes up to a closing mark that is not escaped, escapes as they are, and the rest. A mark in
a set of a pattern closes nothing. -/
def upToMark (mark : UInt8) (sets : Bool) : Nat → Bool → Bytes → Bytes → Option (Bytes × Bytes)
  | 0, _, _, _ => none
  | _, _, _, [] => none
  | fuel + 1, inSet, acc, 0x5C :: c :: r => upToMark mark sets fuel inSet (c :: 0x5C :: acc) r
  | fuel + 1, inSet, acc, b :: r =>
    if b = mark && !inSet then some (acc.reverse, r)
    else if b = newline then none
    else if sets && b = 0x5B && !inSet then
      match r with
      | 0x5E :: 0x5D :: r => upToMark mark sets fuel true (0x5D :: 0x5E :: b :: acc) r
      | 0x5D :: r => upToMark mark sets fuel true (0x5D :: b :: acc) r
      | r => upToMark mark sets fuel true (b :: acc) r
    else if b = 0x5D then upToMark mark sets fuel false (b :: acc) r
    else upToMark mark sets fuel inSet (b :: acc) r

def isWordByte (b : UInt8) : Bool :=
  Tools.isLetter b || Tools.isDigit b || b = 0x5F

/-- The text of a number in front of a text, what is wrong with it if it is none, and the rest. -/
def numeral (cs : Bytes) : Bytes × Option Cause × Bytes :=
  let whole := cs.takeWhile Tools.isDigit
  let r := cs.drop whole.length
  let (part, r) := match r with
    | 0x2E :: r => (0x2E :: r.takeWhile Tools.isDigit, r.dropWhile Tools.isDigit)
    | r => ([], r)
  let front := whole ++ part
  match r with
  | e :: c :: rest =>
    if (e = 0x65 || e = 0x45) && (Tools.isDigit c || c = 0x2B || c = 0x2D) then
      let digits := rest.takeWhile Tools.isDigit
      let text := front ++ e :: c :: digits
      let fault := if Tools.isDigit c || digits ≠ [] then none else some (.decimal (shownText text))
      (text, fault, rest.drop digits.length)
    else (front, none, r)
  | r => (front, none, r)

/-- The least number that has all the digits of others. -/
def leastNormal : Floating := .finite false ⟨1 <<< 52, -1074⟩

/-- The words for the text of a number: too large or too small a one is a flaw. -/
def numberTokens (text : Bytes) : List Token :=
  let x := leadingNumber text
  let shown := shownText text
  let isSmall := x.compare? leastNormal = some .lt
  let flaws : List Token :=
    if x.isZero then
      if (text.takeWhile fun b => b ≠ 0x65 && b ≠ 0x45).any fun b => 0x31 ≤ b && b ≤ 0x39 then
        [.flaw (.tooSmall shown)]
      else []
    else if isSmall || x matches .infinite _ then [.flaw (.tooLarge shown)]
    else []
  flaws ++ [.number x shown]

/-- The word in front of a text that begins with no blank, with what is wrong in front of it, and the
rest; no rest if nothing can be read any more. -/
def word (before : Option Token) (cs : Bytes) : List Token × Option Bytes :=
  let runaway (what mark : String) (r : Bytes) : List Token × Option Bytes :=
    ([.flaw (.runaway what (mark ++ shownText ((r.takeWhile (· ≠ newline)).take 10)))], none)
  match cs with
  | [] => ([.newline], some [])
  | b :: r =>
    if b = newline then ([.newline], some r)
    else if b = 0x22 then
      match upToMark 0x22 false (r.length + 1) false [] r with
      | some (text, rest) => ([.quoted (unescape (text.length + 1) text)], some rest)
      | none => runaway "string constant" "\"" r
    else if b = 0x2F && before.all Token.beforePattern then
      match upToMark 0x2F true (r.length + 1) false [] r with
      | some (text, rest) => ([.pattern text], some rest)
      | none => runaway "regular expression" "/" r
    else if Tools.isDigit b || (b = 0x2E && r.head?.any Tools.isDigit) then
      match numeral cs with
      | (_, some fault, rest) => ([.broken fault], some rest)
      | (text, none, rest) => (numberTokens text, some rest)
    else if isWordByte b then
      let bytes := cs.takeWhile isWordByte
      let rest := cs.drop bytes.length
      let name := shownText bytes
      let token := if keywords.contains name then .keyword name
        else
          match intrinsics.lookup name with
          | some f => .intrinsic f name
          | none => if rest.head? = some 0x28 then .callee name else .name name
      ([token], some rest)
    else
      match signs.find? fun text => (Bytes.ofString text).isPrefixOf cs with
      | some text => ([.sign text], some (cs.drop text.length))
      | none => ([.broken (.alien (shownText [b]))], some r)

/-- All words of a text, the last one first. The fuel bounds their number. -/
def words (file : Option String) : Nat → Nat → List Lexeme → Bytes → List Lexeme
  | 0, _, done, _ => done
  | fuel + 1, line, done, cs =>
    match cs.dropWhile fun b => b = 0x20 || b = 9 || b = 13 with
    | [] => done
    | 0x5C :: 0x0A :: r => words file fuel (line + 1) done r
    | 0x5C :: 0x0D :: 0x0A :: r => words file fuel (line + 1) done r
    | 0x23 :: r => words file fuel line done (r.dropWhile (· ≠ newline))
    | cs =>
      let (tokens, rest) := word (done.head?.map (·.token)) cs
      let done := tokens.foldl (fun done token => ⟨token, ⟨file, line⟩⟩ :: done) done
      match rest with
      | some rest => words file fuel (if tokens = [.newline] then line + 1 else line) done rest
      | none => done

/-- The words of a text, whose last line has an end. -/
def wordsOf (file : Option String) (text : Bytes) : List Lexeme :=
  let text := if text.getLast? = some newline then text else text ++ [newline]
  (words file (text.length + 2) 1 [] text).reverse

/-! ## Patterns -/

/-- A byte that stands for itself in a set, and the rest. -/
def setMember (cs : Bytes) : UInt8 × Bytes :=
  match cs with
  | 0x5C :: r =>
    match escape r with
    | ([b], rest) => (b, rest)
    | (_, rest) => (r.headD 0x5C, rest)
  | b :: r => (b, r)
  | [] => (0, [])

/-- The members of a set with its closing bracket, each in brackets of its own, and the rest. A range
whose ends are the wrong way round is three members. `before` is the member that a range can begin
with. -/
def setMembers : Nat → Option UInt8 → Bytes → Bytes × Bytes
  | 0, _, cs => ([], cs)
  | fuel + 1, before, cs =>
    let single (b : UInt8) : Bytes := [0x5B, 0x2E, b, 0x2E, 0x5D]
    let goOn (made : Bytes) (before : Option UInt8) (cs : Bytes) : Bytes × Bytes :=
      let (more, rest) := setMembers fuel before cs
      (made ++ more, rest)
    let plain (cs : Bytes) : Bytes × Bytes :=
      let (b, rest) := setMember cs
      goOn (single b) (some b) rest
    match cs with
    | [] => ([], [])
    | 0x5D :: r => ([0x5D], r)
    | 0x5B :: 0x3A :: r =>
      let name := r.takeWhile fun b => b ≠ 0x3A && b ≠ 0x5D
      match r.drop name.length with
      | 0x3A :: 0x5D :: rest => goOn ([0x5B, 0x3A] ++ name ++ [0x3A, 0x5D]) none rest
      | _ => plain cs
    | 0x2D :: r =>
      match before with
      | some low =>
        if r.isEmpty || r.head? = some 0x5D then plain cs
        else
          let (high, rest) := setMember r
          if low ≤ high then goOn (single low ++ [0x2D] ++ single high) none rest
          else goOn (single 0x2D) (some 0x2D) r
      | none => plain cs
    | cs => plain cs

/-- A set behind its opening bracket, and the rest. A closing bracket that comes first is a member. -/
def setText (cs : Bytes) : Bytes × Bytes :=
  let (mark, cs) : Bytes × Bytes := match cs with
    | 0x5E :: r => ([0x5B, 0x5E], r)
    | cs => ([0x5B], cs)
  let (first, before, cs) : Bytes × Option UInt8 × Bytes := match cs with
    | 0x5D :: r => ([0x5D], some 0x5D, r)
    | cs => ([], none, cs)
  let (members, rest) := setMembers (cs.length + 1) before cs
  (mark ++ first ++ members, rest)

/-- A pattern's text in the way that all extended expressions are written: escapes for codes are read,
sets have their members one by one, and braces stand for themselves. -/
def plainPattern : Nat → Bytes → Bytes
  | 0, cs => cs
  | _, [] => []
  | fuel + 1, 0x5C :: c :: r =>
    let (bytes, rest) := escape (c :: r)
    let quoted (b : UInt8) : Bytes :=
      if isWordByte b || b < 0x20 || 0x7E < b || b = 0x20 then [b] else [0x5C, b]
    match bytes with
    | [0x5C, c] => (if isWordByte c then [c] else quoted c) ++ plainPattern fuel rest
    | bytes => bytes.flatMap quoted ++ plainPattern fuel rest
  | fuel + 1, 0x5B :: r =>
    let (text, rest) := setText r
    text ++ plainPattern fuel rest
  | fuel + 1, b :: r =>
    (if b = 0x7B || b = 0x7D then [0x5C, b] else [b]) ++ plainPattern fuel r

/-- Is there a choice or a group in a pattern with nothing in it? -/
def lacksOperand : Pattern → Bool
  | .alt .empty _ | .alt _ .empty | .group _ .empty => true
  | .alt a b | .seq a b => lacksOperand a || lacksOperand b
  | .many p _ _ | .group _ p => lacksOperand p
  | _ => false

/-- The pattern that a text stands for. -/
def patternOf (text : Bytes) : Except Pattern.Fault Pattern :=
  let plain := plainPattern (text.length + 1) text
  let found : Except Pattern.Fault Pattern := match Pattern.ofRegex .extended plain with
    | .error .nothing => .error .nothing
    | .ok p => .ok p
    | .error _ => Pattern.ofRegex .lenient plain
  match found with
  | .ok p => if lacksOperand p then .error .nothing else .ok p
  | .error fault => .error fault

end Scratchpad.Shell.Awk
