import Scratchpad.Files.Tree

/-!
# Permissions

Permissions are twelve bits: reading, writing and running for the owner, the group and the others, and
three that say on whose behalf a program runs and who may take entries out of a directory. A mode says
how to change them: it is an octal number, which replaces them, or a list of clauses, each of which gives
or takes permissions. A clause that does not say whose permissions are meant leaves those alone that new
entries are not given.
-/

namespace Scratchpad.Files.Permissions

/-- What a change gives or takes: some bits, the bits of running where a directory is concerned or
somebody may run the file already, or what one of the three has. -/
inductive Matter
  | bits
  | running
  | copied
deriving DecidableEq, Repr

/-- One step of a mode. Nobody in `whose` stands for all, as far as new entries are given permissions;
`named` are the bits that the mode speaks of. -/
structure Change where
  sign : Char
  whose : Nat
  matter : Matter
  value : Nat
  named : Nat
deriving DecidableEq, Repr

/-- All bits that belong to the ones a letter stands for. -/
def whose? : Char → Option Nat
  | 'u' => some 0o4700
  | 'g' => some 0o2070
  | 'o' => some 0o1007
  | 'a' => some 0o7777
  | _ => none

/-- The bits that a letter stands for. -/
def letter? : Char → Option Nat
  | 'r' => some 0o444
  | 'w' => some 0o222
  | 'x' => some 0o111
  | 'X' => some 0
  | 's' => some 0o6000
  | 't' => some 0o1000
  | _ => none

def isSign (c : Char) : Bool :=
  c == '=' || c == '+' || c == '-'

def isOctal (c : Char) : Bool :=
  '0' ≤ c && c ≤ '7'

def octal (cs : List Char) : Nat :=
  cs.foldl (fun n c => n * 8 + (c.toNat - '0'.toNat)) 0

/-- What stands behind a sign, and what is left. -/
def matterOf? (sign : Char) (whose : Nat) (cs : List Char) : Option (Change × List Char) :=
  let digits := cs.takeWhile isOctal
  let rest := cs.drop digits.length
  match cs with
  | 'u' :: r => some (⟨sign, whose, .copied, 0o700, if whose = 0 then 0o700 else whose &&& 0o700⟩, r)
  | 'g' :: r => some (⟨sign, whose, .copied, 0o070, if whose = 0 then 0o070 else whose &&& 0o070⟩, r)
  | 'o' :: r => some (⟨sign, whose, .copied, 0o007, if whose = 0 then 0o007 else whose &&& 0o007⟩, r)
  | cs =>
    if digits ≠ [] then
      if whose ≠ 0 || 0o7777 < octal digits || !(rest.head?.all (· = ',')) then none
      else some (⟨sign, 0o7777, .bits, octal digits, 0o7777⟩, rest)
    else
      let letters := cs.takeWhile fun c => (letter? c).isSome
      let value := letters.foldl (fun n c => n ||| (letter? c).getD 0) 0
      let matter : Matter := if letters.contains 'X' then .running else .bits
      some (⟨sign, whose, matter, value, if whose = 0 then value else whose &&& value⟩,
        cs.drop letters.length)

/-- The changes of a mode; `whose` are those that the clause is about, and the fuel bounds the changes. -/
def clauses? : Nat → Nat → List Char → Option (List Change)
  | 0, _, _ => none
  | fuel + 1, whose, cs =>
    match cs with
    | [] => none
    | c :: r =>
      if isSign c then do
        let (change, rest) ← matterOf? c whose r
        match rest with
        | [] => return [change]
        | ',' :: rest =>
          let who := rest.takeWhile fun c => (whose? c).isSome
          let others ← clauses? fuel (who.foldl (fun n c => n ||| (whose? c).getD 0) 0)
            (rest.drop who.length)
          return change :: others
        | rest => return change :: (← clauses? fuel whose rest)
      else none

/-- The changes that a mode makes, if it is one. A short number leaves the bits alone that say on whose
behalf programs in a directory run. -/
def ofText? (text : List Char) : Option (List Change) :=
  if text.head?.any isOctal then
    if text.all isOctal && octal text ≤ 0o7777 then
      let n := octal text
      some [⟨'=', 0o7777, .bits, n, if text.length < 5 then (n &&& 0o6000) ||| 0o1777 else 0o7777⟩]
    else none
  else
    let who := text.takeWhile fun c => (whose? c).isSome
    clauses? (text.length + 1) (who.foldl (fun n c => n ||| (whose? c).getD 0) 0) (text.drop who.length)

/-- The bits of a number that another one does not have. -/
def without (n others : Nat) : Nat :=
  n - (n &&& others)

/-- The permissions after one change of those of a file or a directory; `mask` are the permissions that
new entries are not given. -/
def Change.apply (c : Change) (isDir : Bool) (mask before : Nat) : Nat :=
  let kept := if isDir then without 0o6000 c.named else 0
  let value := match c.matter with
    | .bits => c.value
    | .running => if isDir || before &&& 0o111 ≠ 0 then c.value ||| 0o111 else c.value
    | .copied =>
      let has := before &&& c.value
      (if has &&& 0o444 = 0 then 0 else 0o444) ||| (if has &&& 0o222 = 0 then 0 else 0o222) |||
        (if has &&& 0o111 = 0 then 0 else 0o111)
  let value := without (value &&& (if c.whose = 0 then without 0o7777 mask else c.whose)) kept
  match c.sign with
  | '+' => before ||| value
  | '-' => without before value
  | _ => (before &&& ((if c.whose = 0 then 0 else without 0o7777 c.whose) ||| kept)) ||| value

/-- The permissions after all changes. -/
def adjust (changes : List Change) (isDir : Bool) (mask before : Nat) : Nat :=
  changes.foldl (fun n c => c.apply isDir mask n) before

/-- Three letters for the permissions of one of the three; `special` is the letter of a fourth bit, if
that is set. -/
def triple (bits : Nat) (special : Option Char) : List Char :=
  let runs := bits &&& 1 ≠ 0
  let last : Char := match special with
    | none => if runs then 'x' else '-'
    | some c => if runs then c else c.toUpper
  [if bits &&& 4 = 0 then '-' else 'r', if bits &&& 2 = 0 then '-' else 'w', last]

/-- Nine letters for all permissions. -/
def letters (mode : Nat) : String :=
  let special (bit : Nat) (c : Char) : Option Char := if mode &&& bit = 0 then none else some c
  String.ofList (triple (mode >>> 6) (special 0o4000 's') ++ triple (mode >>> 3) (special 0o2000 's') ++
    triple mode (special 0o1000 't'))

/-- The letter of a kind of entry. -/
def kindLetter : Node → Char
  | .file .. => '-'
  | .dir .. => 'd'
  | .link .. => 'l'
  | .pipe .. => 'p'
  | .device _ => 'c'

/-- The kind of an entry and its permissions as ten letters. -/
def shown (n : Node) : String :=
  String.singleton (kindLetter n) ++ letters n.traits.mode

end Scratchpad.Files.Permissions
