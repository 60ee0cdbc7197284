import Scratchpad.Shell.Redirects
import Scratchpad.Shell.Script
import Scratchpad.Shell.Wildcards

/-!
# Expansions

What the parts of a word come to, as far as no command has to run for it: stretches that are cut off
or replaced, homes, braces that stand for several words, and texts in quotes.
-/

namespace Scratchpad.Shell

/-- The text of some pieces as it is matched: what is quoted stands only for itself. -/
def wildcardsOf (groups : Bool) (pieces : List Piece) : Pattern :=
  Field.pattern ⟨groups, false, false, false⟩ (pieces.flatMap fun piece => piece.chars.map fun c => (c, piece.isQuoted))

/-- The size of the stretch at the front or end of a text that a pattern matches: the shortest or the
longest one. -/
def stretchSize? (p : Pattern) (front longest : Bool) (cs : List Char) : Option Nat :=
  let sizes := (List.range (cs.length + 1)).filter fun n =>
    p.matchesAll (ByteText.toBytes (if front then cs.take n else cs.drop (cs.length - n)))
  if longest then sizes.getLast? else sizes.head?

/-- A text without that stretch. -/
def strip (p : Pattern) (front longest : Bool) (cs : List Char) : List Char :=
  match stretchSize? p front longest cs with
  | none => cs
  | some n => if front then cs.drop n else cs.take (cs.length - n)

/-- Texts that stay apart without a stretch of all of them. No stretch goes across a border: at the
front it is one of the first text, and with a longest one that is the whole of it go the others. At
the end the texts behind the stretch go with it; a longest one is one of the first text. -/
def stripApart (p : Pattern) (front longest : Bool) : List (List Char) → List (List Char)
  | [] => []
  | first :: rest =>
    let cut (cs : List Char) : Option (List Char) :=
      (stretchSize? p false longest cs).map fun n => cs.take (cs.length - n)
    if front then
      if longest && p.matchesAll (ByteText.toBytes first) then [[]]
      else strip p true longest first :: rest
    else if longest then
      match cut first with
      | some kept => [kept]
      | none => first :: rest
    else
      let rec fromEnd : List (List Char) → Option (List (List Char))
        | [] => none
        | cs :: before =>
          match cut cs with
          | some kept => some (kept :: before)
          | none => fromEnd before
      match fromEnd (first :: rest).reverse with
      | some kept => kept.reverse
      | none => first :: rest

/-- What a default comes to outside of quotes: it is split like a value. -/
def soften (pieces : List Piece) : List Piece :=
  pieces.map fun
    | .fixed cs false => .soft cs
    | piece => piece

/-! ## Homes -/

/-- The homes of the users of the system. -/
def homes : List (String × String) :=
  [("root", "/root"), ("daemon", "/usr/sbin"), ("bin", "/bin"), ("sys", "/dev"), ("sync", "/bin"),
    ("games", "/usr/games"), ("man", "/var/cache/man"), ("lp", "/var/spool/lpd"),
    ("mail", "/var/mail"), ("news", "/var/spool/news"), ("uucp", "/var/spool/uucp"),
    ("proxy", "/bin"), ("www-data", "/var/www"), ("backup", "/var/backups"),
    ("list", "/var/list"), ("nobody", "/nonexistent")]

/-- The home of a user, or of whoever runs the shell. -/
def homeOf? (st : State) (user : List Char) : Option (List Char) :=
  if user = [] then st.get? "HOME".toList
  else if st.isRich && user = ['+'] then st.get? "PWD".toList
  else if st.isRich && user = ['-'] then st.get? "OLDPWD".toList
  else (homes.lookup (String.ofList user)).map String.toList

/-- The parts of a text with a home in place of a tilde in front, which ends at a slash or, in a
setting, at a colon. `more` says that something follows the text. -/
def homeIn (st : State) (setting more : Bool) (cs : List Char) : Word :=
  match cs with
  | '~' :: r =>
    let user := r.takeWhile fun c => c ≠ '/' && !(setting && c = ':')
    let after := r.drop user.length
    match homeOf? st user with
    | some home =>
      if after = [] && more then [.text cs]
      else .quoted [.text home] :: if after = [] then [] else [.text after]
    | none => [.text cs]
  | cs => [.text cs]

/-- The same with the tildes behind colons. -/
def homesIn (st : State) (first more : Bool) (cs : List Char) : Word :=
  let stretches := cs.splitOn ':'
  let last := stretches.length - 1
  (stretches.zipIdx.map fun (stretch, i) =>
    let found := if i = 0 && !first then [.text stretch] else homeIn st true (more && i = last) stretch
    if i = 0 then found else .text [':'] :: found).flatten

/-- A word with homes in place of the tildes that stand for them. -/
def atHome (st : State) (setting : Bool) (w : Word) : Word :=
  let isTilde (part : Part) : Bool := match part with
    | .text cs => if setting then cs.contains '~' else cs.head? = some '~'
    | _ => false
  if !w.any isTilde then w
  else if setting then
    let last := w.length - 1
    (w.zipIdx.map fun (part, i) => match part with
      | .text cs => homesIn st (i = 0) (i ≠ last) cs
      | part => [part]).flatten
  else
    match w with
    | .text cs :: rest => homeIn st false (!rest.isEmpty) cs ++ rest
    | w => w

/-! ## Texts in quotes -/

/-- A text in single quotes; the single quotes in it are put in double ones. The fuel bounds how
often that changes. -/
def quotedWithin : Nat → List Char → List Char
  | 0, _ => []
  | fuel + 1, cs =>
    let front := cs.takeWhile (· ≠ '\'')
    let marks := (cs.drop front.length).takeWhile (· = '\'')
    let after := cs.drop (front.length + marks.length)
    '\'' :: front ++ '\'' :: (if marks = [] then [] else '"' :: marks ++ ['"']) ++
      (if after = [] then [] else quotedWithin fuel after)

def singlyQuoted (cs : List Char) : List Char :=
  quotedWithin (cs.length + 1) cs

/-- The escape of a character between dollar quotes. -/
def dollarEscape (c : Char) : List Char :=
  match c.toNat with
  | 7 => ['\\', 'a']
  | 8 => ['\\', 'b']
  | 9 => ['\\', 't']
  | 10 => ['\\', 'n']
  | 11 => ['\\', 'v']
  | 12 => ['\\', 'f']
  | 13 => ['\\', 'r']
  | 27 => ['\\', 'E']
  | n =>
    if c = '\'' || c = '\\' then ['\\', c]
    else if 32 ≤ n && n < 127 then [c]
    else
      let digits := Nat.toDigits 8 n
      '\\' :: List.replicate (3 - digits.length) '0' ++ digits

def needsDollar (cs : List Char) : Bool :=
  cs.any fun c => c.toNat < 32 || 127 ≤ c.toNat

def dollarQuoted (cs : List Char) : List Char :=
  '$' :: '\'' :: cs.flatMap dollarEscape ++ ['\'']

/-- A text as the rich dialect quotes it: in single quotes, in which a quote is escaped outside of
them. -/
def richlyQuoted (cs : List Char) : List Char :=
  if needsDollar cs then dollarQuoted cs
  else if cs = ['\''] then ['\\', '\'']
  else '\'' :: (cs.flatMap fun c => if c = '\'' then ['\'', '\\', '\'', '\''] else [c]) ++ ['\'']

/-- Characters that mean something to the rich dialect wherever they stand. -/
def isRichlySpecial (c : Char) : Bool :=
  " \t\n'\"\\|&;()<>!{}*[?]^$".toList.contains c || c = '`'

/-- A text with escapes where the rich dialect needs them. -/
def richlyEscaped (cs : List Char) : List Char :=
  if cs = [] then ['\'', '\'']
  else if needsDollar cs then dollarQuoted cs
  else
    cs.zipIdx.flatMap fun (c, i) =>
      if isRichlySpecial c || c = ',' || (i = 0 && (c = '~' || c = '#')) then ['\\', c] else [c]

/-- A text between double quotes. -/
def doublyQuoted (cs : List Char) : List Char :=
  if needsDollar cs then dollarQuoted cs
  else
    '"' :: (cs.flatMap fun c =>
      if c = '"' || c = '\\' || c = '$' || c = '`' then ['\\', c] else [c]) ++ ['"']

/-- How a talkative shell of the rich dialect shows a word. -/
def richlyShown (cs : List Char) : List Char :=
  if cs = [] then ['\'', '\'']
  else if needsDollar cs then dollarQuoted cs
  else if cs.any isRichlySpecial || cs.head? = some '~' || cs.head? = some '#' then richlyQuoted cs
  else cs

/-! ## Changes of the rich dialect -/

/-- The first stretch behind some place that a pattern matches, the longest one there: what is in
front of it, and its length. -/
def stretch? (p : Pattern) (cs : List Char) : Option (Nat × Nat) :=
  (List.range (cs.length + 1)).findSome? fun i =>
    let rest := cs.drop i
    ((List.range (rest.length + 1)).reverse.find? fun n =>
      p.matchesAll (ByteText.toBytes (rest.take n))).map fun n => (i, n)

/-- A replacement, in which a mark that is not quoted stands for what is replaced. -/
def filledIn (other : Field) (found : List Char) : List Char :=
  other.flatMap fun (c, quoted) => if c = '&' && !quoted then found else [c]

/-- A text with what a pattern matches replaced: everywhere, at the front, at the end, or in the
first place. The fuel bounds the places. -/
def replaced (p : Pattern) (other : Field) (mark : Option Char) : Nat → List Char → List Char
  | 0, cs => cs
  | fuel + 1, cs =>
    match mark with
    | some '#' =>
      match (List.range (cs.length + 1)).reverse.find? fun n =>
        p.matchesAll (ByteText.toBytes (cs.take n)) with
      | some n => filledIn other (cs.take n) ++ cs.drop n
      | none => cs
    | some '%' =>
      match (List.range (cs.length + 1)).find? fun i =>
        p.matchesAll (ByteText.toBytes (cs.drop i)) with
      | some i => cs.take i ++ filledIn other (cs.drop i)
      | none => cs
    | mark =>
      match stretch? p cs with
      | none | some (_, 0) => cs
      | some (i, n) =>
        let rest := cs.drop (i + n)
        cs.take i ++ filledIn other ((cs.drop i).take n) ++
          (if mark = some '/' && rest ≠ [] then replaced p other mark fuel rest else rest)

/-- A text with letters of the other case where a pattern matches them. -/
def recased (up all : Bool) (p : Option Pattern) (cs : List Char) : List Char :=
  cs.zipIdx.map fun (c, i) =>
    if (all || i = 0) && p.all fun p => p.matchesAll (ByteText.toBytes [c]) then
      if up then c.toUpper else c.toLower
    else c

/-! ## Braces -/

/-- A character of a word, or a part of it in which there are no braces. -/
inductive Atom
  | char (c : Char)
  | part (p : Part)

def atomsOf (w : Word) : List Atom :=
  w.flatMap fun
    | .text cs => cs.map .char
    | part => [.part part]

def ofAtoms (atoms : List Atom) : Word :=
  let rec join : List Atom → List Char → Word
    | [], [] => []
    | [], acc => [.text acc.reverse]
    | .char c :: r, acc => join r (c :: acc)
    | .part p :: r, [] => p :: join r []
    | .part p :: r, acc => .text acc.reverse :: p :: join r []
  join atoms []

/-- The stretches between the commas up to a closing brace, behind an opening one, and what follows
it. -/
def alternatives (depth : Nat) (current : List Atom) (done : List (List Atom)) :
    List Atom → Option (List (List Atom) × List Atom)
  | [] => none
  | .char '\x7d' :: r =>
    match depth with
    | 0 => some ((current.reverse :: done).reverse, r)
    | depth + 1 => alternatives depth (.char '\x7d' :: current) done r
  | .char '\x7b' :: r => alternatives (depth + 1) (.char '\x7b' :: current) done r
  | .char ',' :: r =>
    if depth = 0 then alternatives depth [] (current.reverse :: done) r
    else alternatives depth (.char ',' :: current) done r
  | a :: r => alternatives depth (a :: current) done r

/-- A whole number in a range, and how wide it is written. -/
def rangeEnd? (cs : List Char) : Option (Int × Nat) :=
  let digits := match cs with
    | '-' :: r | '+' :: r => r
    | r => r
  match Tools.decimal? digits with
  | some n =>
    let padded := digits.length > 1 && digits.head? = some '0'
    some (if cs.head? = some '-' then -n else n, if padded then cs.length else 0)
  | none => none

/-- Numbers from one to another in steps of a size. -/
def stepping (a b : Int) (step : Nat) : List Int :=
  let count := (b - a).natAbs / step + 1
  (List.range (min count 100000)).map fun (i : Nat) =>
    if a ≤ b then a + (i * step : Nat) else a - (i * step : Nat)

/-- The texts of a range: numbers or letters. -/
def range? (cs : List Char) : Option (List (List Char)) :=
  let rec fieldsOf (acc : List Char) : List Char → List (List Char)
    | '.' :: '.' :: r => acc.reverse :: fieldsOf [] r
    | c :: r => fieldsOf (c :: acc) r
    | [] => [acc.reverse]
  let found := fieldsOf [] cs
  let step? : Option Nat := match found with
    | [_, _] => some 1
    | [_, _, s] => (rangeEnd? s).map fun (n : Int × Nat) => max n.1.natAbs 1
    | _ => none
  match found, step? with
  | a :: b :: _, some step =>
    match rangeEnd? a, rangeEnd? b with
    | some (m, wide), some (n, wider) =>
      let width := if wide = 0 && wider = 0 then 0 else max a.length b.length
      some ((stepping m n step).map fun (k : Int) =>
        let digits := Nat.toDigits 10 k.natAbs
        let sign := if k < 0 then ['-'] else []
        sign ++ List.replicate (width - sign.length - digits.length) '0' ++ digits)
    | _, _ =>
      match a, b with
      | [c], [d] =>
        if c.isAlpha && d.isAlpha then
          some ((stepping c.toNat d.toNat step).map fun (k : Int) => [Char.ofNat k.toNat])
        else none
      | _, _ => none
  | _, _ => none

/-- The words that a word with braces stands for. The fuel bounds how many there are in it. -/
def unbraced : Nat → List Atom → List (List Atom)
  | 0, atoms => [atoms]
  | _, [] => [[]]
  | fuel + 1, .char '\x7b' :: r =>
    let literal (_ : Unit) : List (List Atom) := (unbraced fuel r).map (.char '\x7b' :: ·)
    match alternatives 0 [] [] r with
    | none => literal ()
    | some ([one], rest) =>
      let text? := one.mapM fun
        | .char c => some c
        | .part _ => none
      match text?.bind range? with
      | some texts =>
        let ends := unbraced fuel rest
        texts.flatMap fun cs => ends.map (cs.map .char ++ ·)
      | none => literal ()
    | some (found, rest) =>
      let ends := unbraced fuel rest
      (found.flatMap (unbraced fuel)).flatMap fun front => ends.map (front ++ ·)
  | fuel + 1, a :: r => (unbraced fuel r).map (a :: ·)

def bracesOf (w : Word) : List Word :=
  let hasBrace (part : Part) : Bool := match part with
    | .text cs => cs.contains '\x7b'
    | _ => false
  if w.any hasBrace then
    let atoms := atomsOf w
    (unbraced (2 * atoms.length + 2) atoms).map ofAtoms
  else [w]

/-! ## Programs -/

/-- How far a name is along in the table that a shell keeps its variables in. -/
def bucket (name : List Char) : Nat :=
  (name.foldl (fun n c => n + c.toNat) (16 * ((name.head?.map (·.toNat)).getD 0))) % 39

/-- The variable in which a program gets a function, and the name of the function in one. -/
def carrier (name : List Char) : List Char :=
  "BASH_FUNC_".toList ++ name ++ ['%', '%']

def carried? (name : List Char) : Option (List Char) :=
  let lead := "BASH_FUNC_".toList
  if lead.isPrefixOf name && ['%', '%'].isSuffixOf name then
    some ((name.drop lead.length).take (name.length - lead.length - 2))
  else none

/-- The functions that programs get, as texts. -/
def sharedFunctions (st : State) : List (List Char × List Char) :=
  st.shared.filterMap fun name =>
    (st.functions.lookup name).bind fun f =>
      (Script.verbatim? f.written).map fun (c, texts) => (carrier name, Layout.function texts false [] c)

/-- The state in which a program starts: it knows the variables that are exposed, and the functions. -/
def forProgram (st : State) : State :=
  let given := st.environment.reverse.mergeSort fun a b => bucket a.1 ≤ bucket b.1
  let given := given ++ sharedFunctions st
  { st with vars := given.reverse, exported := given.map (·.1) }

end Scratchpad.Shell
