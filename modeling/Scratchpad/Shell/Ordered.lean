import Scratchpad.Shell.Pattern
import Scratchpad.Text.Character

/-!
# Patterns tried branch by branch

Regular expressions whose branches are tried in the order in which they are written, so that the first
way to match counts and not the longest. They can look ahead and back, take as little as possible or
give nothing back, name their groups and call them.
-/

namespace Scratchpad.Shell.Ordered

inductive Fault
  | nothing
  | order
  | tooMany
  | missingClosing
  | unmatchedClosing
  | unknownOption
  | bracket
  | lastBackslash
  | escape
  | variableWidth
  | range
  | rangeClass
  | className
  | classPlace
  | collation
  | reference
  | twice
  | digitName
  | nameExpected
  | nameEnd
  | nameLength
  | bareNamed
  | bareGroup
  | tooLarge
  | hexDigit
  | octalDigit
  | octalSize
  | noDigits
  | property
  | badProperty
  | verb
  | control
  | controlByte
  | comment
  | keepInside
  | codePoint
  | caseChange
  | branches
  | definitions
  | condition
  | digitExpected
  | zeroGroup
  | afterBack
  | afterNamed
deriving DecidableEq, Repr

def Fault.message : Fault → String
  | .nothing => "quantifier does not follow a repeatable item"
  | .order => "numbers out of order in \x7b\x7d quantifier"
  | .tooMany => "number too big in \x7b\x7d quantifier"
  | .missingClosing => "missing closing parenthesis"
  | .unmatchedClosing => "unmatched closing parenthesis"
  | .unknownOption => "unrecognized character after (? or (?-"
  | .bracket => "missing terminating ] for character class"
  | .lastBackslash => "\\ at end of pattern"
  | .escape => "unrecognized character follows \\"
  | .variableWidth => "lookbehind assertion is not fixed length"
  | .range => "range out of order in character class"
  | .rangeClass => "invalid range in character class"
  | .className => "unknown POSIX class name"
  | .classPlace => "POSIX named classes are supported only within a class"
  | .collation => "POSIX collating elements are not supported"
  | .reference => "reference to non-existent subpattern"
  | .twice => "two named subpatterns have the same name (PCRE2_DUPNAMES not set)"
  | .digitName => "subpattern name must start with a non-digit"
  | .nameExpected => "subpattern name expected"
  | .nameEnd => "syntax error in subpattern name (missing terminator?)"
  | .nameLength => "subpattern name is too long (maximum 32 code units)"
  | .bareNamed => "\\k is not followed by a braced, angle-bracketed, or quoted name"
  | .bareGroup =>
    "\\g is not followed by a braced, angle-bracketed, or quoted name/number or by a plain number"
  | .tooLarge => "character code point value in \\x\x7b\x7d or \\o\x7b\x7d is too large"
  | .hexDigit => "non-hex character in \\x\x7b\x7d (closing brace missing?)"
  | .octalDigit => "non-octal character in \\o\x7b\x7d (closing brace missing?)"
  | .octalSize => "octal value is greater than \\377 in 8-bit non-UTF-8 mode"
  | .noDigits => "digits missing in \\x\x7b\x7d or \\o\x7b\x7d or \\N\x7bU+\x7d"
  | .property => "unknown property after \\P or \\p"
  | .badProperty => "malformed \\P or \\p sequence"
  | .verb => "(*VERB) not recognized or malformed"
  | .control => "\\c at end of pattern"
  | .controlByte => "\\c must be followed by a printable ASCII character"
  | .comment => "missing ) after (?# comment"
  | .keepInside =>
    "\\K is not allowed in lookarounds (but see PCRE2_EXTRA_ALLOW_LOOKAROUND_BSK)"
  | .codePoint => "\\N\x7bU+dddd\x7d is supported only in Unicode (UTF) mode"
  | .caseChange => "PCRE2 does not support \\F, \\L, \\l, \\N\x7bname\x7d, \\U, or \\u"
  | .branches => "conditional subpattern contains more than two branches"
  | .definitions => "DEFINE subpattern contains more than one branch"
  | .condition => "assertion expected after (?( or (?(?C)"
  | .digitExpected => "digit expected after (?+ or (?-"
  | .zeroGroup => "group number must not be zero"
  | .afterBack => "unrecognized character after (?<"
  | .afterNamed => "unrecognized character after (?P"

/-- How an expression is to be taken: without regard to the case of letters, with points for newlines
too, with lines that begin and end inside, with blanks that mean nothing, taking little at first, with
groups that are only numbered if they are named, and with names that several groups may have. -/
structure Manner where
  anyCase : Bool := false
  everyByte : Bool := false
  byLine : Bool := false
  spaced : Bool := false
  widely : Bool := false
  sparing : Bool := false
  namedOnly : Bool := false
  sameNames : Bool := false

namespace Manner

/-- The manner with the option of a letter on or off. -/
def set? (m : Manner) (letter : Char) (on : Bool) : Option Manner :=
  match letter with
  | 'i' => some { m with anyCase := on }
  | 's' => some { m with everyByte := on }
  | 'm' => some { m with byLine := on }
  | 'x' => some { m with spaced := on, widely := on && m.widely }
  | 'U' => some { m with sparing := on }
  | 'n' => some { m with namedOnly := on }
  | 'J' => some { m with sameNames := on }
  | _ => none

/-- The pattern for a byte of a set. -/
def one (m : Manner) (set : ByteSet) : Pattern :=
  .one (if m.anyCase then set.inBothCases else set)

end Manner

/-- What is still to be read, how many groups have begun, which names groups have, which groups are asked
for, and how many assertions are open. `isMissing` says that a name was asked for that no group has;
`known` are the names that were found when the expression was read before. `late` is a fault that counts
if the expression is sound otherwise. -/
structure Draft where
  rest : Bytes
  opened : Nat := 0
  names : List (Bytes × Nat) := []
  asked : List Nat := []
  isMissing : Bool := false
  assertions : Nat := 0
  known : List (Bytes × Nat) := []
  late : Option Fault := none

abbrev Reader := StateT Draft (Except Fault)

def fail {α : Type} (f : Fault) : Reader α := throw f

/-- Keeps a fault for the time when all has been read. -/
def failLater (f : Fault) : Reader Unit := modify fun d => { d with late := d.late.or (some f) }

def rest : Reader Bytes := do return (← get).rest

def advance (n : Nat) : Reader Unit := modify fun d => { d with rest := d.rest.drop n }

/-- Takes a text if it comes next. -/
def accept (text : String) : Reader Bool := do
  let bytes := Bytes.ofString text
  if bytes.isPrefixOf (← rest) then
    advance bytes.length
    return true
  else return false

/-- Takes the bytes in front for which a condition holds. -/
def takeAll (p : UInt8 → Bool) : Reader Bytes := do
  let taken := (← rest).takeWhile p
  advance taken.length
  return taken

def isNamePart (b : UInt8) : Bool := Tools.isLetter b || Tools.isDigit b || b = 0x5F

def textOf (bytes : Bytes) : String := String.ofList (Text.Utf8.lossy bytes)

def digitOf? (b : UInt8) : Option Nat := Text.hexValue? (Char.ofNat b.toNat)

def numeral (digits : Bytes) : Nat :=
  digits.foldl (fun n b => n * 10 + (b.toNat - 0x30)) 0

/-- The name of a group up to its closing mark. -/
def name (close : String) : Reader Bytes := do
  match (← rest).head? with
  | none => fail .nameExpected
  | some b =>
    if Tools.isDigit b then fail .digitName
    let found ← takeAll isNamePart
    if found.isEmpty then fail .nameExpected
    if 32 < found.length then fail .nameLength
    if ← accept close then return found
    fail .nameEnd

/-- The group of a name. Until all names are known, any will do. -/
def groupNamed (name : Bytes) : Reader Nat := do
  match (← get).known.lookup name with
  | some n => return n
  | none =>
    modify fun d => { d with isMissing := true }
    return 0

/-- Asks for a group by its number. -/
def askFor (n : Nat) : Reader Nat := do
  modify fun d => { d with asked := n :: d.asked }
  return n

/-! ## Sets of bytes -/

def ofRanges (ranges : List (UInt8 × UInt8)) : ByteSet := ⟨false, ranges⟩

def digits : ByteSet := ofRanges [(0x30, 0x39)]

def blanks : ByteSet := ofRanges [(9, 9), (0x20, 0x20), (0xA0, 0xA0)]

def lineEnds : ByteSet := ofRanges [(10, 13), (0x85, 0x85)]

/-- The ranges of a set, also of one that is given by the bytes that are not in it. -/
def rangesOf (s : ByteSet) : List (UInt8 × UInt8) :=
  if s.negated then
    (((List.range 256).map UInt8.ofNat).filter s.contains).map fun b => (b, b)
  else s.ranges

/-- The set that a letter after a backslash stands for. -/
def letterSet? (c : Char) : Option ByteSet :=
  match c with
  | 'd' => some digits
  | 'D' => some digits.complement
  | 'w' => some .word
  | 'W' => some ByteSet.word.complement
  | 's' => some .space
  | 'S' => some ByteSet.space.complement
  | 'h' => some blanks
  | 'H' => some blanks.complement
  | 'v' => some lineEnds
  | 'V' => some lineEnds.complement
  | _ => none

/-- The bytes with a property. Bytes beyond the first 128 count as the characters of those numbers. -/
def propertySet? (name : String) : Option ByteSet :=
  let upper : List (UInt8 × UInt8) := [(0x41, 0x5A), (0xC0, 0xD6), (0xD8, 0xDE)]
  let lower : List (UInt8 × UInt8) := [(0x61, 0x7A), (0xB5, 0xB5), (0xDF, 0xF6), (0xF8, 0xFF)]
  let other : List (UInt8 × UInt8) := [(0xAA, 0xAA), (0xBA, 0xBA)]
  let numbers : List (UInt8 × UInt8) := [(0x30, 0x39), (0xB2, 0xB3), (0xB9, 0xB9), (0xBC, 0xBE)]
  let marks : List (UInt8 × UInt8) :=
    [(0x21, 0x23), (0x25, 0x2A), (0x2C, 0x2F), (0x3A, 0x3B), (0x3F, 0x40), (0x5B, 0x5D), (0x5F, 0x5F),
      (0x7B, 0x7B), (0x7D, 0x7D), (0xA1, 0xA1), (0xA7, 0xA7), (0xAB, 0xAB), (0xB6, 0xB7), (0xBB, 0xBB),
      (0xBF, 0xBF)]
  match name with
  | "L" => some (ofRanges (upper ++ lower ++ other))
  | "Lu" => some (ofRanges upper)
  | "Ll" => some (ofRanges lower)
  | "L&" => some (ofRanges (upper ++ lower))
  | "Lo" => some (ofRanges other)
  | "N" => some (ofRanges numbers)
  | "Nd" => some digits
  | "P" => some (ofRanges marks)
  | "Z" | "Zs" => some (ofRanges [(0x20, 0x20), (0xA0, 0xA0)])
  | "C" => some (ofRanges [(0, 0x1F), (0x7F, 0x9F), (0xAD, 0xAD)])
  | "Cc" => some (ofRanges [(0, 0x1F), (0x7F, 0x9F)])
  | "Any" => some .all
  | "Xan" => some (ofRanges (upper ++ lower ++ other ++ numbers))
  | "Xwd" => some (ofRanges (upper ++ lower ++ other ++ numbers ++ [(0x5F, 0x5F)]))
  | "Xsp" | "Xps" => some (ofRanges [(9, 13), (0x20, 0x20), (0x85, 0x85), (0xA0, 0xA0)])
  | "S" => some (ofRanges
      [(0x24, 0x24), (0x2B, 0x2B), (0x3C, 0x3E), (0x5E, 0x5E), (0x60, 0x60), (0x7C, 0x7C), (0x7E, 0x7E),
        (0xA2, 0xA6), (0xA8, 0xA9), (0xAC, 0xAC), (0xAE, 0xB1), (0xB4, 0xB4), (0xB8, 0xB8), (0xD7, 0xD7),
        (0xF7, 0xF7)])
  | _ => none

/-- The set of a property after its letter. -/
def property (negated : Bool) : Reader ByteSet := do
  let finish (negated : Bool) (name : Bytes) : Reader ByteSet :=
    match propertySet? (textOf name) with
    | some set => return if negated then set.complement else set
    | none => fail .property
  if ← accept "\x7b" then
    let inverted ← accept "^"
    let found ← takeAll fun b => isNamePart b || b = 0x26
    if ← accept "\x7d" then finish (negated != inverted) found
    else fail .badProperty
  else
    match (← rest).head? with
    | some b =>
      if Tools.isLetter b then
        advance 1
        finish negated [b]
      else fail .badProperty
    | none => fail .badProperty

/-- The number in braces after a letter. -/
def braced (radix : Nat) (wrong : Fault) : Reader UInt8 := do
  let isDigit (b : UInt8) : Bool := (digitOf? b).any (· < radix)
  let found ← takeAll isDigit
  let n : Nat := found.foldl (fun n b => min 0x110000 (n * radix + (digitOf? b).getD 0)) 0
  if found.isEmpty && (← rest).head? = some 0x7D then fail .noDigits
  if 0xFF < n then fail .tooLarge
  if ← accept "\x7d" then return UInt8.ofNat n
  fail wrong

/-- An octal number, the first digit of which has been read. -/
def octal (first : UInt8) (more : Nat) : Reader UInt8 := do
  let found := ((← rest).take more).takeWhile fun b => 0x30 ≤ b && b ≤ 0x37
  advance found.length
  let n : Nat := (first :: found).foldl (fun n b => n * 8 + (b.toNat - 0x30)) 0
  if 0xFF < n then fail .octalSize
  return UInt8.ofNat n

/-- The byte that a letter after a backslash stands for, if it is one that means a byte. -/
def letterByte? (c : Char) : Reader (Option UInt8) := do
  match c with
  | 'a' => return some 7
  | 'e' => return some 0x1B
  | 'f' => return some 12
  | 'n' => return some 10
  | 'r' => return some 13
  | 't' => return some 9
  | '0' => return some (← octal 0x30 2)
  | 'x' =>
    if ← accept "\x7b" then return some (← braced 16 .hexDigit)
    else
      let found := ((← rest).take 2).takeWhile fun b => (digitOf? b).any (· < 16)
      advance found.length
      return some (UInt8.ofNat (found.foldl (fun n b => n * 16 + (digitOf? b).getD 0) 0))
  | 'o' =>
    if ← accept "\x7b" then return some (← braced 8 .octalDigit)
    else fail .octalDigit
  | 'c' =>
    match (← rest).head? with
    | none => fail .control
    | some b =>
      if b < 0x20 || 0x7E < b then fail .controlByte
      advance 1
      let b := if 0x61 ≤ b && b ≤ 0x7A then b - 0x20 else b
      return some (b ^^^ 0x40)
  | _ => return none

/-- A member of a set in brackets: a byte, or a set. -/
inductive Member
  | byte (b : UInt8)
  | bytes (s : ByteSet)

/-- The member after a backslash in brackets. -/
def escapedMember : Reader Member := do
  match (← rest).head? with
  | none => fail .lastBackslash
  | some b =>
    advance 1
    let c := Char.ofNat b.toNat
    match letterSet? c with
    | some set => return .bytes set
    | none =>
      if c = 'b' then return .byte 8
      else if c = 'p' || c = 'P' then return .bytes (← property (c = 'P'))
      else if 0x31 ≤ b && b ≤ 0x37 then return .byte (← octal b 2)
      else if c = 'N' || c = 'R' || c = 'X' || c = 'B' then fail .escape
      else
        match ← letterByte? c with
        | some found => return .byte found
        | none =>
          if Tools.isLetter b then
            fail (if ['F', 'L', 'l', 'U', 'u'].contains c then .caseChange else .escape)
          else return .byte b

/-- The name of a class of bytes with the brackets around it, if there is one. The first two bytes have been
looked at. -/
def classNamed? (mark : UInt8) : Reader (Option (Bool × Bytes)) := do
  let r := (← rest).drop 2
  let negated := r.head? = some 0x5E
  let found := (if negated then r.drop 1 else r).takeWhile fun b =>
    b ≠ mark && b ≠ 0x5D && b ≠ 0x5C && b ≠ 0x5B
  let size := found.length + (if negated then 1 else 0)
  if [mark, 0x5D].isPrefixOf (r.drop size) then return some (negated, found)
  else return none

/-- A member of a set in brackets; `quoted` says that signs mean themselves. -/
def member (quoted : Bool) (b : UInt8) : Reader Member := do
  if quoted then
    advance 1
    return .byte b
  else if b = 0x5C then
    advance 1
    escapedMember
  else if b = 0x5B && [0x3A, 0x2E, 0x3D].contains (((← rest).drop 1).headD 0) then
    let mark := ((← rest).drop 1).headD 0
    match ← classNamed? mark with
    | none =>
      advance 1
      return .byte b
    | some (negated, found) =>
      if mark ≠ 0x3A then fail .collation
      match (if found = Bytes.ofString "word" then some (rangesOf .word)
        else (Tools.classOf? (textOf found)).map fun bytes => bytes.map fun b => (b, b)) with
      | none => fail .className
      | some ranges =>
        advance (found.length + 4 + if negated then 1 else 0)
        return .bytes ⟨negated, ranges⟩
  else
    advance 1
    return .byte b

/-- The members of a set up to its closing bracket. `last?` is the byte before the one at hand, from which a
range may go on; `dash` says that a dash came after it. -/
def members (m : Manner) : Nat → Bool → Bool → Option Member → Bool → List (UInt8 × UInt8) →
    Reader (List (UInt8 × UInt8))
  | 0, _, _, _, _, _ => fail .bracket
  | fuel + 1, fresh, quoted, last?, dash, done => do
    /- The ranges with those of what came before. -/
    let settled : List (UInt8 × UInt8) :=
      (if dash then [(0x2D, 0x2D)] else []) ++
      (match last? with
        | some (.byte b) => [(b, b)]
        | some (.bytes s) => rangesOf s
        | none => []) ++ done
    match ← rest with
    | [] => fail .bracket
    | b :: _ =>
      if quoted && (← accept "\\E") then members m fuel false false last? dash done
      else if !quoted && (← accept "\\Q") then members m fuel false true last? dash done
      else if !quoted && (← accept "\\E") then members m fuel fresh false last? dash done
      else if m.widely && !quoted && (b = 0x20 || b = 9) then
        advance 1
        members m fuel fresh quoted last? dash done
      else if b = 0x5D && !fresh && !quoted then
        advance 1
        return settled
      else if b = 0x2D && !quoted && !dash && last?.isSome then
        advance 1
        members m fuel false quoted last? true done
      else
        let found ← member quoted b
        if dash then
          match last?, found with
          | some (.byte low), .byte high =>
            if high < low then fail .range
            members m fuel false quoted none false ((low, high) :: done)
          | _, _ => fail .rangeClass
        else
          members m fuel false quoted (some found) false settled

/-- A set after its opening bracket. -/
def bracket (m : Manner) : Reader Pattern := do
  let negated ← accept "^"
  let ranges ← members m ((← rest).length + 2) true false none false []
  let set : ByteSet := ofRanges ranges
  let set := if m.anyCase then set.inBothCases else set
  return .one (if negated then set.complement else set)

/-! ## Groups and repetitions -/

def failing : Pattern := .one (ofRanges [])

def anyByte (m : Manner) : Pattern :=
  .one (if m.everyByte then .all else ⟨true, [(newline, newline)]⟩)

/-- The end of a line, whichever of the usual ways it is written in. -/
def lineBreak : Pattern :=
  .once (.alt (Pattern.ofBytes [13, 10]) (.one lineEnds))

/-- The bounds of a repetition after an opening brace, if there are any. -/
def bounds? : Reader (Option (Nat × Option Nat)) := do
  let r ← rest
  let low := r.takeWhile Tools.isDigit
  let r := r.drop low.length
  let found : Option (Nat × Option Nat × Bytes) :=
    if low.isEmpty then none
    else
      match r with
      | 0x7D :: r => some (numeral low, some (numeral low), r)
      | 0x2C :: 0x7D :: r => some (numeral low, none, r)
      | 0x2C :: r =>
        let high := r.takeWhile Tools.isDigit
        match high, r.drop high.length with
        | [], _ => none
        | high, 0x7D :: r => some (numeral low, some (numeral high), r)
        | _, _ => none
      | _ => none
  match found with
  | none => return none
  | some (low, high, r) =>
    if 65535 < low || high.any (65535 < ·) then fail .tooMany
    if high.any (· < low) then fail .order
    modify fun d => { d with rest := r }
    return some (low, high)

/-- A pattern repeated, as the signs after the bounds ask for it. -/
def repeated (m : Manner) (p : Pattern) (least : Nat) (most : Option Nat) : Reader Pattern := do
  if ← accept "+" then return .once (.tries p least most true)
  let sparing ← accept "?"
  return .tries p least most (m.sparing == sparing)

/-- A reference by name or number in some brackets after a letter. -/
def bracketedName? : Reader (Option Bytes) := do
  if ← accept "\x7b" then return some (← name "\x7d")
  if ← accept "<" then return some (← name ">")
  if ← accept "'" then return some (← name "'")
  return none

/-- A group by its number, which may count from the group at hand. -/
def relative (sign : Option Bool) (n : Nat) : Reader Nat := do
  let opened := (← get).opened
  match sign with
  | none => askFor n
  | some true => if n = 0 then fail .zeroGroup else askFor (opened + n)
  | some false =>
    if n = 0 then fail .zeroGroup
    else if opened < n then fail .reference
    else askFor (opened + 1 - n)

/-- A number with an optional sign, if there is one. -/
def signed? : Reader (Option (Option Bool × Nat)) := do
  let r ← rest
  let (sign, r) : Option Bool × Bytes := match r with
    | 0x2B :: r => (some true, r)
    | 0x2D :: r => (some false, r)
    | r => (none, r)
  let found := r.takeWhile Tools.isDigit
  if found.isEmpty then return none
  modify fun d => { d with rest := r.drop found.length }
  return some (sign, numeral found)

/-- What the letter for a reference in some brackets refers to. -/
def reference (m : Manner) : Reader Pattern := do
  let called (close : String) : Reader Pattern := do
    match ← signed? with
    | some (sign, n) =>
      let n ← if sign.isNone && n = 0 then pure 0 else relative sign n
      if ← accept close then return .call n
      fail .bareGroup
    | none => return .call (← groupNamed (← name close))
  if ← accept "<" then called ">"
  else if ← accept "'" then called "'"
  else if ← accept "\x7b" then
    match ← signed? with
    | some (sign, n) =>
      let n ← relative sign n
      if ← accept "\x7d" then return .again n m.anyCase
      fail .bareGroup
    | none => return .again (← groupNamed (← name "\x7d")) m.anyCase
  else
    match ← signed? with
    | some (sign, n) => return .again (← relative sign n) m.anyCase
    | none => fail .bareGroup

/-- A reference to a group by the digits after a backslash, or the byte of an octal number. -/
def numbered (m : Manner) (first : UInt8) : Reader Pattern := do
  let more := (← rest).takeWhile Tools.isDigit
  let n := numeral (first :: more)
  if n < 10 || 0x38 ≤ first || n ≤ (← get).opened then
    advance more.length
    return .again (← askFor n) m.anyCase
  else return m.one (.single (← octal first 2))

/-- What comes after a backslash, and whether it can be repeated. -/
def escaped (m : Manner) : Reader (Pattern × Bool) := do
  match (← rest).head? with
  | none => fail .lastBackslash
  | some b =>
    advance 1
    let c := Char.ofNat b.toNat
    match letterSet? c with
    | some set => return (m.one set, true)
    | none =>
      match c with
      | 'b' => return (.edge .wordEdge, false)
      | 'B' => return (.edge .noWordEdge, false)
      | 'A' => return (.edge .start, false)
      | 'Z' => return (.edge .lastLine, false)
      | 'z' => return (.edge .finish, false)
      | 'G' => return (.edge .outset, false)
      | 'K' =>
        if 0 < (← get).assertions then failLater .keepInside
        return (.keep, false)
      | 'R' => return (lineBreak, true)
      | 'C' | 'X' => return (.one .all, true)
      | 'N' =>
        if (Bytes.ofString "\x7bU+").isPrefixOf (← rest) then fail .codePoint
        let r ← rest
        if r.head? = some 0x7B then
          advance 1
          let bounds ← bounds?
          if bounds.isNone then fail .caseChange
          modify fun d => { d with rest := r }
        return (anyByte { m with everyByte := false }, true)
      | 'p' | 'P' => return (m.one (← property (c = 'P')), true)
      | 'k' =>
        match ← bracketedName? with
        | some found => return (.again (← groupNamed found) m.anyCase, true)
        | none => fail .bareNamed
      | 'g' => return (← reference m, true)
      | _ =>
        if 0x31 ≤ b && b ≤ 0x39 then return (← numbered m b, true)
        match ← letterByte? c with
        | some found => return (m.one (.single found), true)
        | none =>
          if Tools.isLetter b then
            fail (if ['F', 'L', 'l', 'U', 'u'].contains c then .caseChange else .escape)
          else return (m.one (.single b), true)

/-- How what stands in parentheses counts. -/
inductive Role
  | plain
  | capture (n : Nat)
  | once
  | beside (ahead holds : Bool)
  | restarting
  | depends (n : Nat)
  | recursing
  | definition
  | asks (ahead holds : Bool)

/-- What an opening parenthesis begins. -/
inductive Opening
  | group (role : Role) (manner : Manner)
  | manner (m : Manner)
  | piece (p : Pattern)
  | comment

/-- Begins a group that is numbered. -/
def capture (m : Manner) (called : Option Bytes) : Reader Opening := do
  let d ← get
  let n := d.opened + 1
  match called with
  | none => set { d with opened := n }
  | some found =>
    if !m.sameNames && (d.names.lookup found).any (· ≠ n) then fail .twice
    set { d with opened := n, names := d.names ++ [(found, n)] }
  return .group (.capture n) m

/-- The letters that change the manner, up to the sign after them. -/
def mannerSigns : Nat → Bool → Manner → Reader Opening
  | 0, _, _ => fail .missingClosing
  | fuel + 1, on, m => do
    match ← rest with
    | [] => fail .missingClosing
    | b :: r =>
      advance 1
      match Char.ofNat b.toNat with
      | ')' => return .manner m
      | ':' => return .group .plain m
      | '-' => if on then mannerSigns fuel false m else fail .unknownOption
      | 'x' =>
        let twice := r.head? = some 0x78
        if twice then advance 1
        mannerSigns fuel on { m with spaced := on, widely := on && twice }
      | c =>
        match m.set? c on with
        | some m => mannerSigns fuel on m
        | none => fail .unknownOption

/-- Up to the closing parenthesis of a condition. -/
def closing : Reader Unit := do
  if ← accept ")" then return ()
  fail (if (← rest).isEmpty then .missingClosing else .nameEnd)

/-- A condition after its opening parenthesis. -/
def condition : Reader Role := do
  for (sign, ahead, holds) in
      [("?=", true, true), ("?!", true, false), ("?<=", false, true), ("?<!", false, false)] do
    if ← accept sign then return .asks ahead holds
  match ← signed? with
  | some (sign, n) =>
    let n ← relative sign n
    closing
    return .depends n
  | none =>
    if ← accept "DEFINE)" then return .definition
    if ← accept "R)" then return .recursing
    if ← accept "<" then
      let n ← groupNamed (← name ">")
      closing
      return .depends n
    if ← accept "'" then
      let n ← groupNamed (← name "'")
      closing
      return .depends n
    if (← rest).head?.all fun b => !isNamePart b then fail .condition
    return .depends (← groupNamed (← name ")"))

/-- The groups that may be written with a name after a star. -/
def starred : List (String × Role) :=
  [("pla:", .beside true true), ("positive_lookahead:", .beside true true),
    ("nla:", .beside true false), ("negative_lookahead:", .beside true false),
    ("plb:", .beside false true), ("positive_lookbehind:", .beside false true),
    ("nlb:", .beside false false), ("negative_lookbehind:", .beside false false),
    ("atomic:", .once)]

/-- The words that may stand between parentheses after a star, and what they match. -/
def verbs : List (String × Pattern) :=
  [("FAIL)", failing), ("F)", failing), ("COMMIT)", .empty), ("PRUNE)", .empty), ("SKIP)", .empty),
    ("THEN)", .empty), ("UTF)", .empty), ("UCP)", .empty), ("LF)", .empty), ("ANY)", .empty),
    ("NO_JIT)", .empty), ("NO_START_OPT)", .empty)]

/-- What comes after an opening parenthesis. -/
def opening (m : Manner) : Reader Opening := do
  if ← accept "*" then
    for (text, role) in starred do
      if ← accept text then return .group role m
    for (text, p) in verbs do
      if ← accept text then return .piece p
    fail .verb
  else if ← accept "?" then
    for (sign, role) in
        [(":", Role.plain), ("|", .restarting), (">", .once), ("=", .beside true true),
          ("!", .beside true false), ("<=", .beside false true), ("<!", .beside false false)] do
      if ← accept sign then return .group role m
    if ← accept "#" then
      let _ ← takeAll (· ≠ 0x29)
      if ← accept ")" then return .comment
      fail .comment
    if ← accept "P<" then capture m (some (← name ">"))
    else if ← accept "<" then capture m (some (← name ">"))
    else if ← accept "'" then capture m (some (← name "'"))
    else if ← accept "P=" then return .piece (.again (← groupNamed (← name ")")) m.anyCase)
    else if ← accept "P>" then return .piece (.call (← groupNamed (← name ")")))
    else if ← accept "P" then fail .afterNamed
    else if ← accept "&" then return .piece (.call (← groupNamed (← name ")")))
    else if ← accept "(" then return .group (← condition) m
    else if ← accept "R" then
      if ← accept ")" then return .piece (.call 0)
      fail .missingClosing
    else
      match ← signed? with
      | some (sign, n) =>
        let n ← if sign.isNone && n = 0 then pure 0 else relative sign n
        if ← accept ")" then return .piece (.call n)
        fail .missingClosing
      | none =>
        if ← accept "^" then mannerSigns ((← rest).length + 1) true { sameNames := m.sameNames }
        else mannerSigns ((← rest).length + 1) true m
  else if m.namedOnly then return .group .plain m
  else capture m none

/-- The pattern of a group from its branches. -/
def ofBranches (role : Role) (branches : List Pattern) : Reader Pattern := do
  let either : Pattern := match branches.reverse with
    | [] => .empty
    | last :: others => others.foldl (fun p b => .alt b p) last
  match role with
  | .plain | .restarting => return either
  | .capture n => return .group n either
  | .once => return .once either
  | .beside ahead holds => return .beside ahead holds either
  | .definition =>
    if 1 < branches.length then fail .definitions
    return .alt (.seq failing either) .empty
  | .depends n =>
    match branches with
    | [a] => return .depends n a .empty
    | [a, b] => return .depends n a b
    | _ =>
      failLater .branches
      return .empty
  | .recursing =>
    match branches with
    | [a] => return .alt (.seq failing a) .empty
    | [a, b] => return .alt (.seq failing a) b
    | _ => fail .branches
  | .asks .. => fail .condition

mutual

/-- The branches of a group up to its closing parenthesis; `restart` says that each one numbers its groups
from the same number on. -/
def branches (restart : Bool) : Nat → Manner → Reader (List Pattern)
  | 0, _ => fail .missingClosing
  | fuel + 1, m => do
    let first := (← get).opened
    let (p, m) ← branch fuel m false [] false
    if ← accept "|" then
      let most := (← get).opened
      if restart then modify fun d => { d with opened := first }
      let others ← branches restart fuel m
      if restart then modify fun d => { d with opened := max d.opened most }
      return p :: others
    return [p]

/-- A branch, after some pieces of it, last one first; `repeatable` says that a sign may repeat the last one
and `quoted` that signs mean themselves. The manner may change on the way. -/
def branch : Nat → Manner → Bool → List Pattern → Bool → Reader (Pattern × Manner)
  | 0, _, _, _, _ => fail .missingClosing
  | fuel + 1, m, quoted, pieces, repeatable => do
    let finish : Reader (Pattern × Manner) :=
      return (pieces.foldl (fun p piece => .seq piece p) .empty, m)
    let piece (p : Pattern) (repeatable : Bool) : Reader (Pattern × Manner) :=
      branch fuel m quoted (p :: pieces) repeatable
    let again (least : Nat) (most : Option Nat) : Reader (Pattern × Manner) := do
      match repeatable, pieces with
      | true, p :: others => branch fuel m quoted ((← repeated m p least most) :: others) false
      | _, _ => fail .nothing
    match ← rest with
    | [] => finish
    | b :: r =>
      if quoted then
        if ← accept "\\E" then branch fuel m false pieces repeatable
        else
          advance 1
          piece (m.one (.single b)) true
      else if b = 0x7C || b = 0x29 then finish
      else if m.spaced && ByteSet.space.contains b then
        advance 1
        branch fuel m quoted pieces repeatable
      else if m.spaced && b = 0x23 then
        let _ ← takeAll (· ≠ newline)
        branch fuel m quoted pieces repeatable
      else if ← accept "\\Q" then branch fuel m true pieces repeatable
      else if ← accept "\\E" then branch fuel m quoted pieces repeatable
      else
        advance 1
        match Char.ofNat b.toNat with
        | '\\' =>
          let (p, repeatable) ← escaped m
          piece p repeatable
        | '^' => piece (.edge (if m.byLine then .lineStart else .start)) false
        | '$' => piece (.edge (if m.byLine then .lineFinish else .finish)) false
        | '.' => piece (anyByte m) true
        | '*' => again 0 none
        | '+' => again 1 none
        | '?' => again 0 (some 1)
        | '\x7b' =>
          match ← bounds? with
          | some (least, most) => again least most
          | none => piece (m.one (.single b)) true
        | '[' =>
          let body := r.takeWhile (· ≠ 0x5D)
          let mark := r.headD 0
          if [0x3A, 0x2E, 0x3D].contains mark && 2 ≤ body.length && body.getLast? = some mark &&
            body.length < r.length && (body.drop 1).dropLast.all fun b => Tools.isLetter b || b = 0x5E then
            fail (if mark = 0x3A then .classPlace else .collation)
          else piece (← bracket m) true
        | '(' =>
          match ← opening m with
          | .comment => branch fuel m quoted pieces repeatable
          | .manner m => branch fuel m quoted pieces false
          | .piece p => piece p true
          | .group role inner => piece (← group fuel role inner) true
        | _ => piece (m.one (.single b)) true

/-- A group after what begins it. -/
def group : Nat → Role → Manner → Reader Pattern
  | 0, _, _ => fail .missingClosing
  | fuel + 1, role, m => do
    let inside (restart : Bool) : Reader (List Pattern) := do
      let found ← branches restart fuel m
      if ← accept ")" then return found
      fail .missingClosing
    match role with
    | .asks ahead holds =>
      let asked ← asserted fuel m
      match ← inside false with
      | [a] =>
        return .alt (.seq (.beside ahead holds asked) a) (.beside ahead (!holds) asked)
      | [a, b] =>
        return .alt (.seq (.beside ahead holds asked) a) (.seq (.beside ahead (!holds) asked) b)
      | _ => fail .branches
    | .beside ahead holds => return .beside ahead holds (← asserted fuel m)
    | .restarting => ofBranches role (← inside true)
    | role => ofBranches role (← inside false)

/-- What an assertion asks for, with its closing parenthesis. -/
def asserted : Nat → Manner → Reader Pattern
  | 0, _ => fail .missingClosing
  | fuel + 1, m => do
    modify fun d => { d with assertions := d.assertions + 1 }
    let found ← branches false fuel m
    if ← accept ")" then
      modify fun d => { d with assertions := d.assertions - 1 }
      ofBranches .plain found
    else fail .missingClosing

end

/-! ## The whole expression -/

/-- How many bytes a pattern matches, if it is always the same number. -/
def width? (groups : Nat → Option Nat) : Pattern → Option Nat
  | .empty | .edge _ | .keep | .beside .. => some 0
  | .one _ => some 1
  | .seq a b => do return (← width? groups a) + (← width? groups b)
  | .alt a b | .depends _ a b => do
    let (n, m) := (← width? groups a, ← width? groups b)
    if n = m then some n else none
  | .many p least most | .tries p least most _ => do
    let n ← width? groups p
    if n = 0 then some 0
    else if most = some least then some (n * least) else none
  | .group _ p | .once p => width? groups p
  | .again n _ | .call n => groups n
  | .other _ => none

/-- Does every branch have a width? -/
def branchesHaveWidth (groups : Nat → Option Nat) : Pattern → Bool
  | .alt a b => branchesHaveWidth groups a && branchesHaveWidth groups b
  | p => (width? groups p).isSome

/-- Do all assertions that look back know how far? -/
def looksBackFixed (groups : Nat → Option Nat) : Pattern → Bool
  | .beside false _ p => branchesHaveWidth groups p && looksBackFixed groups p
  | .beside true _ p | .many p _ _ | .tries p _ _ _ | .group _ p | .once p | .other p =>
    looksBackFixed groups p
  | .seq a b | .alt a b | .depends _ a b => looksBackFixed groups a && looksBackFixed groups b
  | _ => true

/-- The pattern of an expression, and what was found on the way. -/
def readAll (m : Manner) (known : List (Bytes × Nat)) (text : Bytes) : Except Fault (Pattern × Draft) :=
  (do
    let found ← branches false (2 * text.length + 2) m
    if (← rest).isEmpty then ofBranches .plain found
    else fail .unmatchedClosing : Reader Pattern).run { rest := text, known }

/-- The pattern of an expression. It is read twice, since groups may be asked for by name before
they come. -/
def pattern (m : Manner) (text : Bytes) : Except Fault Pattern := do
  let (_, first) ← readAll m [] text
  let (p, d) ← readAll m first.names text
  let widths (n : Nat) : Option Nat := (p.body? n).bind (width? fun _ => none)
  if !looksBackFixed widths p then throw .variableWidth
  if let some f := d.late then throw f
  if d.isMissing || d.asked.any (d.opened < ·) then throw .reference
  return p

end Scratchpad.Shell.Ordered
