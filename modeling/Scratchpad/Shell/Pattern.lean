import Scratchpad.Shell.Tools.Basic

/-!
# Patterns

A pattern matches stretches of bytes. Matching at a spot of a text gives all spots where a match can
end, the preferred one first. Of these the one that is farthest counts, or the first one where a
pattern is tried branch by branch; groups remember what they matched. Patterns are written as regular
expressions, basic or extended, or as the wildcards of a shell.
-/

namespace Scratchpad.Shell

/-- The bytes in some ranges, or all others. -/
structure ByteSet where
  negated : Bool
  ranges : List (UInt8 × UInt8)

namespace ByteSet

def contains (s : ByteSet) (b : UInt8) : Bool :=
  (s.ranges.any fun (low, high) => low ≤ b && b ≤ high) != s.negated

def single (b : UInt8) : ByteSet := ⟨false, [(b, b)]⟩

def all : ByteSet := ⟨true, []⟩

/-- The byte of a letter in the other case. -/
def otherCase (b : UInt8) : UInt8 :=
  if Tools.isLetter b then b ^^^ 0x20 else b

/-- The bytes that words are made of. -/
def word : ByteSet := ⟨false, [(0x30, 0x39), (0x41, 0x5A), (0x5F, 0x5F), (0x61, 0x7A)]⟩

def space : ByteSet := ⟨false, [(9, 13), (0x20, 0x20)]⟩

def complement (s : ByteSet) : ByteSet := { s with negated := !s.negated }

/-- The set with every letter in both cases. -/
def inBothCases (s : ByteSet) : ByteSet :=
  { s with ranges :=
      (((List.range 128).map UInt8.ofNat).filter fun b =>
        { s with negated := false }.contains b || { s with negated := false }.contains (otherCase b)
        ).map (fun b => (b, b)) ++ s.ranges.filter fun (_, high) => 128 ≤ high }

end ByteSet

/-- A property of a place between two bytes. -/
inductive Edge
  | start
  | finish
  | lineStart
  | lineFinish
  | wordStart
  | wordFinish
  | wordEdge
  | noWordEdge
  | afterNoWord
  | beforeNoWord
  /-- Where the search for the match began. -/
  | outset
  /-- The end of the text, or the place before a newline that ends it. -/
  | lastLine
deriving DecidableEq, Repr

/-- What bytes may match. `many` takes as many rounds as it can and gets somewhere in each; `tries` has rounds in
the order in which they are preferred, and an empty round ends them. `once` keeps to the preferred match,
`beside` looks ahead or back without moving, `keep` lets the match begin here, and `depends` goes by
whether a group has matched. `call` matches what a group is for, or the whole pattern. -/
inductive Pattern
  | empty
  | one (set : ByteSet)
  | edge (e : Edge)
  | seq (a b : Pattern)
  | alt (a b : Pattern)
  | many (p : Pattern) (least : Nat) (most : Option Nat)
  | group (n : Nat) (p : Pattern)
  | again (n : Nat) (anyCase : Bool)
  | other (p : Pattern)
  | tries (p : Pattern) (least : Nat) (most : Option Nat) (eager : Bool)
  | once (p : Pattern)
  | beside (ahead holds : Bool) (p : Pattern)
  | keep
  | depends (n : Nat) (a b : Pattern)
  | call (n : Nat)

/-- A place in a text: how many bytes are in front of it and which, the last one first, those behind it,
and what the groups before it have matched. `origin` is where the search began, and `kept` where the
match is said to begin, if that is not where it does. -/
structure Spot where
  passed : Nat
  before : Bytes
  rest : Bytes
  groups : List (Nat × Nat × Bytes)
  origin : Nat := 0
  kept : Option Nat := none

namespace Spot

def ofText (text : Bytes) : Spot := { passed := 0, before := [], rest := text, groups := [] }

/-- The place behind the next byte. -/
def next (s : Spot) : Spot :=
  match s.rest with
  | b :: rest => { s with passed := s.passed + 1, before := b :: s.before, rest }
  | [] => s

/-- The place behind the next bytes. -/
def skip : Spot → Nat → Spot
  | s, 0 => s
  | s, n + 1 => s.next.skip n

/-- The place some bytes back. -/
def back : Spot → Nat → Spot
  | s, 0 => s
  | s, n + 1 =>
    match s.before with
    | b :: before => { s with passed := s.passed - 1, before, rest := b :: s.rest }.back n
    | [] => s

/-- The bytes from one spot to another. -/
def upTo (s e : Spot) : Bytes :=
  s.rest.take (e.passed - s.passed)

/-- The place with the bytes from some spot on for what a group has matched. -/
def remember (e : Spot) (n : Nat) (s : Spot) : Spot :=
  { e with groups := (n, s.passed, s.upTo e) :: e.groups.filter (·.1 ≠ n) }

/-- What a group matched, if it has matched anything. -/
def captured? (s : Spot) (n : Nat) : Option Bytes :=
  (s.groups.lookup n).map (·.2)

def isAt (s : Spot) (e : Edge) : Bool :=
  let before := s.before.head?.any ByteSet.word.contains
  let after := s.rest.head?.any ByteSet.word.contains
  match e with
  | .start => s.passed = 0
  | .finish => s.rest.isEmpty
  | .lineStart => s.before.head?.all (· = newline)
  | .lineFinish => s.rest.head?.all (· = newline)
  | .wordStart => !before && after
  | .wordFinish => before && !after
  | .wordEdge => before != after
  | .noWordEdge => before == after
  | .afterNoWord => !before
  | .beforeNoWord => !after
  | .outset => s.passed = s.origin
  | .lastLine => s.rest.isEmpty || s.rest = [newline]

end Spot

namespace Pattern

/-- Spots without those that are where another one in front of them is. -/
def thin : List Spot → List Spot
  | [] => []
  | [s] => [s]
  | spots =>
    (spots.foldl (fun (acc : Nat × List Spot) s =>
      if acc.1.testBit s.passed then acc else (acc.1 ||| 1 <<< s.passed, s :: acc.2)) (0, [])
      ).2.reverse

/-- The spots after some rounds of a step, which are put in front of those that were found before; a
round that gets nowhere is not repeated. The fuel bounds the rounds. Unless what groups matched counts,
a spot is not left twice with the same number of rounds to go: `seen` has a bit for each such spot,
and `stride` is more than the number of spots. -/
def rounds (step : Spot → List Spot) (exact : Bool) (stride : Nat) :
    Nat → Nat → Option Nat → Spot → Nat × List Spot → Nat × List Spot
  | 0, _, _, s, (seen, found) => (seen, s :: found)
  | fuel + 1, least, most, s, (seen, found) =>
    let place := s.passed + stride * most.getD least
    if !exact && seen.testBit place then (seen, found)
    else
      let seen := if exact then seen else seen ||| 1 <<< place
      let (seen, found) :=
        if most = some 0 then (seen, found)
        else
          (step s).foldl (fun acc e =>
            if 0 < least || s.passed < e.passed then
              rounds step exact stride fuel (least - 1) (most.map (· - 1)) e acc
            else acc) (seen, found)
      if least = 0 then (seen, s :: found) else (seen, found)

/-- The spots behind the bytes of a set that come next, the last one first. -/
def run (set : ByteSet) (least : Nat) (most : Option Nat) (s : Spot) : List Spot :=
  go most s.rest s (if least = 0 then [s] else [])
where
  go : Option Nat → Bytes → Spot → List Spot → List Spot
    | some 0, _, _, found | _, [], _, found => found
    | left, b :: rest, here, found =>
      if set.contains b then
        let next := { here with passed := here.passed + 1, before := b :: here.before, rest }
        go (left.map (· - 1)) rest next (if s.passed + least ≤ next.passed then next :: found else found)
      else found

/-- The spots after some rounds of a step in the order in which they are preferred, which are put in
front of those that were found before, so the last one first. Rounds that need not be made come after
going on unless `eager`. An empty round is made once and ends them. -/
def turns (step : Spot → List Spot) (exact eager : Bool) (stride : Nat) :
    Nat → Nat → Option Nat → Spot → Nat × List Spot → Nat × List Spot
  | 0, _, _, s, (seen, found) => (seen, s :: found)
  | fuel + 1, least, most, s, (seen, found) =>
    let place := s.passed + stride * most.getD least
    if !exact && seen.testBit place then (seen, found)
    else
      let seen := if exact then seen else seen ||| 1 <<< place
      let (seen, found) := if least = 0 && !eager then (seen, s :: found) else (seen, found)
      let (seen, found) :=
        if most = some 0 then (seen, found)
        else
          (step s).foldl (fun acc e =>
            if s.passed = e.passed then (acc.1, e :: acc.2)
            else turns step exact eager stride fuel (least - 1) (most.map (· - 1)) e acc) (seen, found)
      if least = 0 && eager then (seen, s :: found) else (seen, found)

/-- Does a pattern ask for what a group has matched? -/
def looksBack : Pattern → Bool
  | .again .. | .depends .. | .call _ => true
  | .seq a b | .alt a b => looksBack a || looksBack b
  | .many p _ _ | .group _ p | .other p | .tries p _ _ _ | .once p | .beside _ _ p => looksBack p
  | _ => false

/-- Where matches that begin at a spot can end. If it does not count what groups matched, there is one
match for every end. `calls` says where a group that is called from elsewhere ends. -/
def endsBy (exact : Bool) (calls : Nat → Spot → List Spot) : Pattern → Spot → List Spot
  | .empty, s => [s]
  | .one set, s =>
    match s.rest with
    | b :: _ => if set.contains b then [s.next] else []
    | [] => []
  | .edge e, s => if s.isAt e then [s] else []
  | .seq a b, s =>
    match endsBy exact calls a s with
    | [e] => endsBy exact calls b e
    | found =>
      let ends := found.flatMap fun e => endsBy exact calls b e
      if exact then ends else thin ends
  | .alt a b, s =>
    let ends := endsBy exact calls a s ++ endsBy exact calls b s
    if exact then ends else thin ends
  | .many (.one set) least most, s => run set least most s
  | .many p least most, s =>
    let (_, found) := rounds (fun e => endsBy exact calls p e) exact (s.passed + s.rest.length + 1)
      (s.rest.length + least + 1) least most s (0, [])
    if exact then found.reverse else thin found.reverse
  | .tries (.one set) least most eager, s =>
    let ends := run set least most s
    if eager then ends else ends.reverse
  | .tries p least most eager, s =>
    let (_, found) := turns (fun e => endsBy exact calls p e) exact eager (s.passed + s.rest.length + 1)
      (s.rest.length + least + 1) least most s (0, [])
    if exact then found.reverse else thin found.reverse
  | .group n p, s => (endsBy exact calls p s).map fun e => e.remember n s
  | .again n anyCase, s =>
    match s.captured? n with
    | some bytes =>
      let found := s.rest.take bytes.length
      let isSame := found = bytes ||
        (anyCase && found.length = bytes.length && (found.zip bytes).all fun (a, b) =>
          a = b || a = ByteSet.otherCase b)
      if isSame then [s.skip bytes.length] else []
    | none => []
  | .other p, s =>
    let found := endsBy exact calls p s
    ((List.range (s.rest.length + 1)).reverse.map s.skip).filter fun e =>
      !found.any fun f => f.passed = e.passed
  | .once p, s => (endsBy exact calls p s).take 1
  | .beside true holds p, s =>
    match endsBy exact calls p s with
    | e :: _ => if holds then [{ s with groups := e.groups }] else []
    | [] => if holds then [] else [s]
  | .beside false holds p, s =>
    let found := (List.range (s.passed + 1)).findSome? fun n =>
      (endsBy exact calls p (s.back n)).find? fun e => e.passed = s.passed
    match found with
    | some e => if holds then [{ s with groups := e.groups }] else []
    | none => if holds then [] else [s]
  | .keep, s => [{ s with kept := some s.passed }]
  | .depends n a b, s => if (s.captured? n).isSome then endsBy exact calls a s else endsBy exact calls b s
  | .call n, s => calls n s

/-- What a group is for; the whole pattern has the number zero. -/
def body? (n : Nat) (p : Pattern) : Option Pattern :=
  if n = 0 then some p else inside p
where
  inside : Pattern → Option Pattern
    | .group m p => if m = n then some (.group m p) else inside p
    | .seq a b | .alt a b | .depends _ a b => (inside a).or (inside b)
    | .many p _ _ | .other p | .tries p _ _ _ | .once p | .beside _ _ p => inside p
    | _ => none

/-- Where the groups of a pattern end when they are called. Groups inside have no effect outside. The
fuel bounds how deep calls are. -/
def callsOf (exact : Bool) (whole : Pattern) : Nat → Nat → Spot → List Spot
  | 0, _, _ => []
  | fuel + 1, n, s =>
    match whole.body? n with
    | none => []
    | some p =>
      (endsBy exact (callsOf exact whole fuel) p s).map fun e =>
        { e with groups := s.groups, kept := s.kept }

/-- Where matches that begin at a spot of a text can end. -/
def ends (p : Pattern) (s : Spot) : List Spot :=
  let exact := p.looksBack
  endsBy exact (callsOf exact p (s.rest.length + 2)) p s

/-- The farthest of some spots; of equal ones the first. -/
def farthestOf (spots : List Spot) : Option Spot :=
  spots.foldl (fun best e =>
    match best with
    | some b => if b.passed < e.passed then some e else some b
    | none => some e) none

/-- The farthest end of a match at a spot. -/
def farthest (p : Pattern) (s : Spot) : Option Spot :=
  farthestOf (p.ends s)

/-- Does the pattern match all of a text? -/
def matchesAll (p : Pattern) (text : Bytes) : Bool :=
  (p.ends (.ofText text)).any fun e => e.rest.isEmpty

/-- The first spot at or after another one for which a function has something. The bytes are those that
come behind the spot. -/
def firstFrom {α : Type} (f : Spot → Option α) : Bytes → Spot → Option α
  | [], s => f s
  | _ :: rest, s =>
    match f s with
    | some x => some x
    | none => firstFrom f rest s.next

/-- The first match at or after a spot: where it begins and where it ends. Of the ends at one spot, `choose`
takes the one that counts. -/
def findBy (choose : List Spot → Option Spot) (p : Pattern) (s : Spot) : Option (Spot × Spot) :=
  let exact := p.looksBack
  let calls (n : Nat) (b : Spot) : List Spot :=
    if exact then callsOf exact p (s.rest.length + 2) n b else []
  let s := { s with origin := s.passed, kept := none }
  firstFrom (fun b => (choose (endsBy exact calls p b)).map fun e =>
    match e.kept with
    | some n => (if n ≤ b.passed then b.back (b.passed - n) else b.skip (n - b.passed), e)
    | none => (b, e)) s.rest s

def find? (p : Pattern) (s : Spot) : Option (Spot × Spot) :=
  findBy farthestOf p s

def isIn (p : Pattern) (text : Bytes) : Bool :=
  (p.find? (.ofText text)).isSome

/-- The matches in a text from left to right, which do not overlap: where each begins and where it
ends. An empty match right after another one does not count. -/
def allBy (find : Spot → Option (Spot × Spot)) (text : Bytes) : List (Spot × Spot) :=
  go (text.length + 1) none (.ofText text)
where
  go : Nat → Option Nat → Spot → List (Spot × Spot)
    | 0, _, _ => []
    | fuel + 1, last, s =>
      match find s with
      | none => []
      | some (b, e) =>
        if b.passed < e.passed then (b, e) :: go fuel (some e.passed) { e with groups := [] }
        else
          let found := if last = some e.passed then [] else [(b, e)]
          found ++ (if e.rest.isEmpty then [] else go fuel none ({ e with groups := [] }.skip 1))

def findAll (p : Pattern) (text : Bytes) : List (Spot × Spot) :=
  allBy p.find? text

/-- A pattern with its simplest parts changed. -/
def mapParts (f : Pattern → Pattern) : Pattern → Pattern
  | .seq a b => .seq (mapParts f a) (mapParts f b)
  | .alt a b => .alt (mapParts f a) (mapParts f b)
  | .many p least most => .many (mapParts f p) least most
  | .group n p => .group n (mapParts f p)
  | .tries p least most eager => .tries (mapParts f p) least most eager
  | .once p => .once (mapParts f p)
  | .other p => .other (mapParts f p)
  | .beside ahead holds p => .beside ahead holds (mapParts f p)
  | .depends n a b => .depends n (mapParts f a) (mapParts f b)
  | p => f p

/-- The pattern that does not tell the cases of letters apart. -/
def ignoringCase (p : Pattern) : Pattern :=
  p.mapParts fun
    | .one set => .one set.inBothCases
    | .again n _ => .again n true
    | p => p

/-- The pattern for a text of several lines, each of which starts and ends. -/
def linewise (p : Pattern) : Pattern :=
  p.mapParts fun
    | .edge .start => .edge .lineStart
    | .edge .finish => .edge .lineFinish
    | p => p

/-- How many groups a pattern has. -/
def groupCount : Pattern → Nat
  | .seq a b | .alt a b | .depends _ a b => max (groupCount a) (groupCount b)
  | .many p _ _ | .tries p _ _ _ | .once p | .beside _ _ p => groupCount p
  | .group n p => max n (groupCount p)
  | _ => 0

def ofBytes (bytes : Bytes) : Pattern :=
  bytes.foldr (fun b p => .seq (.one (.single b)) p) .empty

/-! ## Reading regular expressions -/

/-- The ways in which regular expressions are written. In the extended way signs have their meanings
without a backslash; the lenient way is extended, but takes signs that have nothing to repeat for
themselves. Only in the strict basic way may a star not follow another one. -/
inductive Style
  | basic
  | lenientBasic
  | extended
  | lenient
deriving DecidableEq, Repr

def Style.isExtended : Style → Bool
  | .extended | .lenient => true
  | _ => false

inductive Fault
  | bracket
  | emptyBracket
  | parenthesis
  | closing
  | brace
  | interval
  | size
  | nothing
  | range
  | className
  | classPlace
  | backslash
  | reference
  | collation
deriving DecidableEq, Repr

def Fault.message : Fault → String
  | .bracket => "Unmatched [, [^, [:, [., or [="
  | .emptyBracket => "Invalid regular expression"
  | .parenthesis => "Unmatched ( or \\("
  | .closing => "Unmatched ) or \\)"
  | .brace => "Unmatched \\\x7b"
  | .interval => "Invalid content of \\\x7b\\\x7d"
  | .size => "Regular expression too big"
  | .nothing => "Invalid preceding regular expression"
  | .range => "Invalid range end"
  | .className => "Invalid character class name"
  | .classPlace => "character class syntax is [[:space:]], not [:space:]"
  | .backslash => "Trailing backslash"
  | .reference => "Invalid back reference"
  | .collation => "Invalid collation character"

/-- The name up to a mark and a closing bracket, and the rest. -/
def bracketName (mark : UInt8) (name : Bytes) : Bytes → Except Fault (Bytes × Bytes)
  | a :: 0x5D :: r => if a = mark then .ok (name.reverse, r) else bracketName mark (a :: name) (0x5D :: r)
  | a :: r => bracketName mark (a :: name) r
  | [] => .error .bracket

/-- A byte of a set in brackets, which may be written in brackets of its own, and the rest. -/
def bracketByte (text : Bytes) : Except Fault (UInt8 × Bytes) :=
  let named (mark : UInt8) (r : Bytes) : Except Fault (UInt8 × Bytes) := do
    match ← bracketName mark [] r with
    | ([b], rest) => return (b, rest)
    | _ => throw .collation
  match text with
  | 0x5B :: 0x2E :: r => named 0x2E r
  | 0x5B :: 0x3D :: r => named 0x3D r
  | b :: r => .ok (b, r)
  | [] => .error .bracket

/-- The members of a set in brackets up to the closing one. -/
def members : Nat → List (UInt8 × UInt8) → Bytes → Except Fault (List (UInt8 × UInt8) × Bytes)
  | 0, _, _ => .error .bracket
  | _, _, [] => .error .bracket
  | fuel + 1, acc, b :: r =>
    if b = 0x5D then .ok (acc, r)
    else if b = 0x5B && r.head? = some 0x3A then
      match bracketName 0x3A [] (r.drop 1) with
      | .error f => .error f
      | .ok (name, rest) =>
        match Tools.classOf? (String.ofList (Text.Utf8.lossy name)) with
        | some bytes =>
          if opensRange rest then .error .range
          else members fuel (bytes.map (fun b => (b, b)) ++ acc) rest
        | none => .error .className
    else
      match bracketByte (b :: r) with
      | .error f => .error f
      | .ok (low, rest) =>
        if b = 0x5B && r.head? = some 0x3D && opensRange rest then .error .range
        else upTo fuel acc low rest
where
  /-- Does a range go on here? A class of bytes is no end of one. -/
  opensRange : Bytes → Bool
    | 0x2D :: c :: _ => c ≠ 0x5D
    | _ => false
  /-- A member and, after a dash, the end of its range. -/
  upTo (fuel : Nat) (acc : List (UInt8 × UInt8)) (low : UInt8) (r : Bytes) :
      Except Fault (List (UInt8 × UInt8) × Bytes) :=
    match r with
    | 0x2D :: c :: rest =>
      if c = 0x5D then members fuel ((low, low) :: acc) r
      else if c = 0x5B && rest.head?.any [0x3A, 0x3D].contains then .error .range
      else
        match bracketByte (c :: rest) with
        | .error f => .error f
        | .ok (high, rest) =>
          if high < low then .error .range else members fuel ((low, high) :: acc) rest
    | r => members fuel ((low, low) :: acc) r

/-- A set after its opening bracket; `marks` are the bytes that negate it. -/
def bracket (marks : Bytes) (r : Bytes) : Except Fault (ByteSet × Bytes) :=
  let negated := r.head?.any marks.contains
  let r := if negated then r.drop 1 else r
  let found : Except Fault (List (UInt8 × UInt8) × Bytes) := match r with
    | [] => .error .emptyBracket
    | 0x5D :: rest => members.upTo (r.length + 1) [] 0x5D rest
    | r => members (r.length + 1) [] r
  found.map fun (ranges, rest) => (⟨negated, ranges⟩, rest)

inductive Token
  | piece (p : Pattern)
  | star (least : Nat) (most : Option Nat) (isSign : Bool)
  | opening
  | closing
  | bar

/-- The largest number of repetitions. -/
def mostRounds : Nat := 32767

/-- Where a number in an interval stops. -/
inductive Stop
  | comma
  | close
  | finish
deriving DecidableEq

/-- A number in an interval, if there is one: `none` for something else. It comes with where it stops, and
what comes after that. -/
def bound (close : Bytes) : Nat → Option (Option Nat) → Bytes → Option (Option Nat) × Stop × Bytes
  | 0, _, r => (none, .finish, r)
  | _, _, [] => (none, .finish, [])
  | fuel + 1, found, b :: r =>
    if close.isPrefixOf (b :: r) then (found, .close, (b :: r).drop close.length)
    else if b = 0x2C then (found, .comma, r)
    else if b = 0x5C then bound close fuel none (r.drop 1)
    else
      let next := if Tools.isDigit b then
          found.map fun n => some (min (n.getD 0 * 10 + (b.toNat - 0x30)) (mostRounds + 1))
        else none
      bound close fuel next r

/-- The bounds in an interval, and what comes after its end; nothing if it is no interval, which only
the lenient way allows. -/
def interval (style : Style) (r : Bytes) : Except Fault (Option (Nat × Option Nat × Bytes)) :=
  let close : Bytes := if style.isExtended then [0x7D] else [0x5C, 0x7D]
  let wrong (stop : Stop) : Except Fault (Option (Nat × Option Nat × Bytes)) :=
    if style = .lenient then .ok none
    else .error (if stop = .finish then .brace else .interval)
  let finish (least : Nat) (most : Option Nat) (stop : Stop) (r : Bytes) :
      Except Fault (Option (Nat × Option Nat × Bytes)) :=
    if most.any (· < least) || stop ≠ .close then .error .interval
    else if mostRounds < most.getD least then .error .size
    else .ok (some (least, most, r))
  match bound close (r.length + 1) (some none) r with
  | (none, stop, _) => wrong stop
  | (some none, .close, _) => .error .interval
  | (some low, .comma, r) =>
    match bound close (r.length + 1) (some none) r with
    | (none, stop, _) => wrong stop
    | (some high, stop, r) => finish (low.getD 0) high stop r
  | (some low, stop, r) => finish (low.getD 0) low stop r

/-- What a letter after a backslash stands for, if it has a meaning of its own. -/
def escape? (b : UInt8) : Option Pattern :=
  match Char.ofNat b.toNat with
  | 'w' => some (.one .word)
  | 'W' => some (.one ByteSet.word.complement)
  | 's' => some (.one .space)
  | 'S' => some (.one ByteSet.space.complement)
  | 'b' => some (.edge .wordEdge)
  | 'B' => some (.edge .noWordEdge)
  | '<' => some (.edge .wordStart)
  | '>' => some (.edge .wordFinish)
  | '`' => some (.edge .start)
  | '\'' => some (.edge .finish)
  | _ => none

/-- The token in front of an expression. `fresh` says that nothing comes before it that could be
repeated. -/
def token (style : Style) (fresh : Bool) (b : UInt8) (r : Bytes) :
    Except Fault (Token × Bytes) :=
  let extended := style.isExtended
  let literal (b : UInt8) (r : Bytes) : Except Fault (Token × Bytes) :=
    .ok (.piece (.one (.single b)), r)
  /- A sign that repeats what is in front of it. -/
  let repeats (least : Nat) (most : Option Nat) (isSign : Bool) (rest : Bytes) :
      Except Fault (Token × Bytes) :=
    if !fresh then .ok (.star least most isSign, rest)
    else
      match style with
      | .extended => .error .nothing
      | .lenient => .ok (.piece .empty, rest)
      | _ => literal b rest
  /- A sign with a meaning of its own in one of the two kinds of expressions. -/
  let sign (b : UInt8) (r : Bytes) : Option (Except Fault (Token × Bytes)) :=
    match b with
    | 0x28 => some (.ok (.opening, r))
    | 0x29 => some (.ok (.closing, r))
    | 0x7C => some (.ok (.bar, r))
    | 0x2B => some (if fresh && !extended then literal b r else repeats 1 none false r)
    | 0x3F => some (if fresh && !extended then literal b r else repeats 0 (some 1) false r)
    | 0x7B =>
      match interval style r with
      | .ok (some (least, most, rest)) =>
        if fresh && style = .lenientBasic then some (literal b r)
        else if fresh && !extended then some (.error .nothing)
        else some (repeats least most true rest)
      | .ok none => some (literal b r)
      | .error f => some (.error f)
    | _ => none
  if b = 0x5C then
    match r with
    | [] => .error .backslash
    | c :: r =>
      if 0x31 ≤ c && c ≤ 0x39 then .ok (.piece (.again (c.toNat - 0x30) false), r)
      else
        match escape? c with
        | some p => .ok (.piece p, r)
        | none => if extended then literal c r else (sign c r).getD (literal c r)
  else if b = 0x5B then
    let body := r.takeWhile (· ≠ 0x5D)
    if body.head? = some 0x3A && body.getLast? = some 0x3A && 2 < body.length &&
      body.length < r.length then .error .classPlace
    else (bracket [0x5E] r).map fun (set, r) => (.piece (.one set), r)
  else if b = 0x2E then .ok (.piece (.one .all), r)
  else if b = 0x2A then repeats 0 none true r
  else if b = 0x5E && (extended || fresh) then .ok (.piece (.edge .start), r)
  else if b = 0x24 && (extended || r = [] || [0x5C, 0x29].isPrefixOf r || [0x5C, 0x7C].isPrefixOf r)
  then .ok (.piece (.edge .finish), r)
  else if extended then (sign b r).getD (literal b r)
  else literal b r

/-- A group that is being read, or the whole expression: its number, the branches before the one at
hand, the pieces of that one, last one first, whether the last piece is repeated, the groups that
were complete before it, and those that are complete in its branches so far. -/
structure Level where
  number : Nat
  branches : List Pattern
  pieces : List Pattern
  starred : Bool
  known : List Nat := []
  gained : List Nat := []

namespace Level

def ofNumber (number : Nat) (known : List Nat) : Level :=
  { number, branches := [], pieces := [], starred := false, known }

def branch (l : Level) : Pattern :=
  l.pieces.foldl (fun p piece => .seq piece p) .empty

def close (l : Level) : Pattern :=
  l.branches.foldl (fun p b => .alt b p) l.branch

/-- Does nothing come before that could be repeated? The lenient way repeats an anchor. -/
def isFresh (l : Level) (style : Style) : Bool :=
  match l.pieces with
  | [] => true
  | [.edge .start] => style ≠ .lenient
  | _ => false

def push (l : Level) (p : Pattern) : Level :=
  { l with pieces := p :: l.pieces, starred := false }

end Level

/-- Reads an expression; `opened` counts its groups, and `closed` are those that are complete. -/
def read (style : Style) : Nat → Nat → List Nat → Level → List Level → Bytes → Except Fault Pattern
  | 0, _, _, _, _, _ => .error .parenthesis
  | _, _, _, l, [], [] => .ok l.close
  | _, _, _, _, _ :: _, [] => .error .parenthesis
  | fuel + 1, opened, closed, l, outer, b :: r =>
    match token style (l.isFresh style) b r with
    | .error f => .error f
    | .ok (.piece (.again n anyCase), r) =>
      if closed.contains n then read style fuel opened closed (l.push (.again n anyCase)) outer r
      else .error .reference
    | .ok (.piece p, r) => read style fuel opened closed (l.push p) outer r
    | .ok (.star least most isSign, r) =>
      match l.pieces with
      | p :: pieces =>
        if style = .basic && l.starred && isSign then .error .nothing
        else
          read style fuel opened closed
            { l with pieces := .many p least most :: pieces, starred := true } outer r
      | [] => read style fuel opened closed l outer r
    | .ok (.opening, r) =>
      read style fuel (opened + 1) closed (.ofNumber (opened + 1) closed) (l :: outer) r
    | .ok (.bar, r) =>
      read style fuel opened l.known
        { l with
          branches := l.branch :: l.branches
          pieces := []
          starred := false
          gained := closed ++ l.gained } outer r
    | .ok (.closing, r) =>
      match outer with
      | o :: outer =>
        read style fuel opened (l.number :: closed ++ l.gained) (o.push (.group l.number l.close)) outer r
      | [] =>
        if style = .lenient then
          read style fuel opened closed (l.push (.one (.single 0x29))) [] r
        else .error .closing

/-- The pattern of a regular expression. -/
def ofRegex (style : Style) (text : Bytes) : Except Fault Pattern :=
  read style (text.length + 1) 0 [] (.ofNumber 0 []) [] text

/-- The signs that stand where nothing comes before them that they could repeat, as an extended expression
shows them. After an anchor there is still nothing to repeat. -/
def idleSigns : Nat → Bool → Bytes → List String
  | 0, _, _ | _, _, [] => []
  | fuel + 1, fresh, b :: r =>
    let idle (sign : String) (r : Bytes) : List String :=
      if fresh then sign :: idleSigns fuel true r else idleSigns fuel false r
    match Char.ofNat b.toNat with
    | '\\' =>
      let anchors : List Char := ['<', '>', 'b', 'B', Char.ofNat 96, '\'']
      idleSigns fuel (fresh && r.head?.any fun c => anchors.contains (Char.ofNat c.toNat)) (r.drop 1)
    | '[' =>
      match bracket [0x5E] r with
      | .ok (_, r) => idleSigns fuel false r
      | .error _ => []
    | '(' | '|' => idleSigns fuel true r
    | '^' | '$' => idleSigns fuel fresh r
    | '*' => idle "*" r
    | '+' => idle "+" r
    | '?' => idle "?" r
    | '\x7b' =>
      match interval .lenient r with
      | .ok (some (_, _, rest)) => idle "\x7b...\x7d" rest
      | _ => idleSigns fuel false r
    | _ => idleSigns fuel false r

/-! ## Wildcards -/

/-- A text with a mark on the bytes that stand only for themselves. -/
abbrev Marked := List (UInt8 × Bool)

/-- The alternatives in a group up to its closing parenthesis, and what comes after it; `depth` counts
the groups inside. -/
def alternatives (depth : Nat) (current : Marked) (done : List Marked) : Marked → Option (List Marked × Marked)
  | [] => none
  | (b, true) :: r => alternatives depth ((b, true) :: current) done r
  | (b, false) :: r =>
    if b = 0x29 then
      match depth with
      | 0 => some ((current.reverse :: done).reverse, r)
      | depth + 1 => alternatives depth ((b, false) :: current) done r
    else if b = 0x28 then alternatives (depth + 1) ((b, false) :: current) done r
    else if b = 0x7C && depth = 0 then alternatives depth [] (current.reverse :: done) r
    else alternatives depth ((b, false) :: current) done r

/-- What a sign makes of the patterns in the group behind it. -/
def grouped? (sign : UInt8) (p : Pattern) : Option Pattern :=
  match sign with
  | 0x3F => some (.many p 0 (some 1))
  | 0x2A => some (.many p 0 none)
  | 0x2B => some (.many p 1 none)
  | 0x40 => some p
  | 0x21 => some (.other p)
  | _ => none

/-- The pattern of a text with wildcards, in which some bytes stand only for themselves; `groups` says
that there may be groups of patterns. The fuel bounds the bytes. -/
def ofWildcards (groups : Bool) : Nat → Marked → Pattern
  | 0, _ => .empty
  | _, [] => .empty
  | fuel + 1, (b, plain) :: r =>
    let literal : Pattern := .seq (.one (.single b)) (ofWildcards groups fuel r)
    let single : Pattern :=
      match b with
      | 0x2A => .seq (.many (.one .all) 0 none) (ofWildcards groups fuel r)
      | 0x3F => .seq (.one .all) (ofWildcards groups fuel r)
      | 0x5C =>
        match r with
        | (c, _) :: r => .seq (.one (.single c)) (ofWildcards groups fuel r)
        | [] => literal
      | 0x5B =>
        match bracket [0x21, 0x5E] (r.map (·.1)) with
        | .ok (set, rest) =>
          .seq (.one set) (ofWildcards groups fuel (r.drop (r.length - rest.length)))
        | .error _ => literal
      | _ => literal
    if plain then literal
    else
      match (if groups then r else []) with
      | (0x28, false) :: inner =>
        match alternatives 0 [] [] inner with
        | some (found, rest) =>
          let p := found.foldr (fun m p => .alt (ofWildcards groups fuel m) p) (.other (.many (.one .all) 0 none))
          match grouped? b p with
          | some p => .seq p (ofWildcards groups fuel rest)
          | none => single
        | none => single
      | _ => single

/-- Does a name fit a text with wildcards, all of which count? -/
def fits (pattern name : String) : Bool :=
  let marked := (Bytes.ofString pattern).map fun b => (b, false)
  (ofWildcards false (marked.length + 1) marked).matchesAll (Bytes.ofString name)

end Pattern
end Scratchpad.Shell
