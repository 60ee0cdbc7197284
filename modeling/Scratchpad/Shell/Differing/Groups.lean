import Scratchpad.Shell.Differing.Forms

/-!
# Groups in forms of their own

The lines of two texts come in groups: those that only the first has, those that only the second has,
those that both have, and those that stand in each other's places. A form says how the groups of a kind
are shown, and another one how the lines in them are.
-/

namespace Scratchpad.Shell.Differing

/-- The forms of groups and lines. -/
structure GroupForms where
  oldLine : String
  newLine : String
  commonLine : String
  oldGroup : String
  newGroup : String
  commonGroup : String
  changedGroup : String

/-- A group: in each text the lines from one up to another. -/
structure Group where
  first : Nat
  behindFirst : Nat
  second : Nat
  behindSecond : Nat

/-- A number that a group has under a letter; capital letters stand for the second text. -/
def Group.number? (g : Group) (letter : Char) : Option Nat :=
  match letter with
  | 'e' => some g.first
  | 'f' => some (g.first + 1)
  | 'l' => some g.behindFirst
  | 'm' => some (g.behindFirst + 1)
  | 'n' => some (g.behindFirst - g.first)
  | 'E' => some g.second
  | 'F' => some (g.second + 1)
  | 'L' => some g.behindSecond
  | 'M' => some (g.behindSecond + 1)
  | 'N' => some (g.behindSecond - g.second)
  | _ => none

/-- A character between single quotes, as it is or by its number in octal, and the rest behind it. -/
def quotedByte? (cs : List Char) : Option (Bytes × List Char) :=
  match cs with
  | '\'' :: '\\' :: rest =>
    let digits := rest.takeWhile fun c => '0' ≤ c && c ≤ '7'
    match rest.drop digits.length with
    | '\'' :: rest =>
      if 1 ≤ digits.length && digits.length ≤ 3 then
        let n := digits.foldl (fun (n : Nat) c => n * 8 + (c.toNat - 48)) 0
        some ([UInt8.ofNat n], rest)
      else none
    | _ => none
  | '\'' :: c :: '\'' :: rest => if c = '\'' then none else some (Bytes.ofString (String.singleton c), rest)
  | _ => none

/-- A number in the way a directive asks for: flags, a width, the least count of digits and a base. -/
def laidNumber (flags : List Char) (width : Nat) (least : Option Nat) (kind : Char) (n : Nat) : String :=
  let base := match kind with
    | 'o' => 8
    | 'd' => 10
    | _ => 16
  let digits := Nat.toDigits base n
  let digits := if kind = 'X' then digits.map Char.toUpper else digits
  let digits := if least = some 0 && n = 0 then [] else digits
  let body := List.replicate (least.getD 0 - digits.length) '0' ++ digits
  let gap := width - body.length
  String.ofList (
    if flags.contains '-' then body ++ List.replicate gap ' '
    else if flags.contains '0' && least.isNone then List.replicate gap '0' ++ body
    else List.replicate gap ' ' ++ body)

/-- What stands for a directive behind its percent sign, and the rest behind it. -/
def directive? (number? : Char → Option Nat) (cs : List Char) : Option (Bytes × List Char) :=
  let flags := cs.takeWhile fun c => c = '-' || c = '\'' || c = '0'
  let cs := cs.drop flags.length
  let width := cs.takeWhile Char.isDigit
  let cs := cs.drop width.length
  let (least, cs) : Option (List Char) × List Char := match cs with
    | '.' :: cs => (some (cs.takeWhile Char.isDigit), cs.dropWhile Char.isDigit)
    | cs => (none, cs)
  match cs with
  | 'c' :: cs => quotedByte? cs
  | kind :: letter :: cs =>
    if kind = 'd' || kind = 'o' || kind = 'x' || kind = 'X' then
      (number? letter).map fun n =>
        (Bytes.ofString (laidNumber flags ((Tools.decimal? width).getD 0)
          (least.map fun ds => (Tools.decimal? ds).getD 0) kind n), cs)
    else none
  | _ => none

/-- A line in a form. -/
def lineIn (v : Layout) (s : Side) (i : Nat) : Nat → List Char → Bytes
  | 0, _ | _, [] => []
  | fuel + 1, '%' :: '%' :: cs => 0x25 :: lineIn v s i fuel cs
  | fuel + 1, '%' :: 'l' :: cs => v.inside [] (s.line i) ++ lineIn v s i fuel cs
  | fuel + 1, '%' :: 'L' :: cs =>
    v.inside [] (s.line i) ++ (if s.isCutAt i then [] else [newline]) ++ lineIn v s i fuel cs
  | fuel + 1, '%' :: cs =>
    match directive? (fun c => if c = 'n' then some (i + 1) else none) cs with
    | some (bytes, rest) => bytes ++ lineIn v s i fuel rest
    | none => 0x25 :: lineIn v s i fuel cs
  | fuel + 1, c :: cs => Bytes.ofString (String.singleton c) ++ lineIn v s i fuel cs

def linesIn (v : Layout) (form : String) (s : Side) (first behind : Nat) : Bytes :=
  let cs := form.toList
  (s.span first behind).flatMap fun i => lineIn v s i (cs.length + 1) cs

/-- One side of a condition: a number, or what a letter stands for; and the rest behind the sign that ends
it. -/
def operand? (g : Group) (mark : Char) (cs : List Char) : Option (Nat × List Char) :=
  let digits := cs.takeWhile Char.isDigit
  let found : Option (Nat × List Char) := match digits, cs with
    | _ :: _, cs => (Tools.decimal? digits).map fun n => (n, cs.drop digits.length)
    | [], c :: cs => (g.number? c).map fun n => (n, cs)
    | [], [] => none
  match found with
  | some (n, c :: rest) => if c = mark then some (n, rest) else none
  | _ => none

/-- A group in a form up to a sign, and the rest from there on. -/
def groupIn (v : Layout) (forms : GroupForms) (a b : Side) (g : Group) :
    Nat → Option Char → List Char → Bytes × List Char
  | 0, _, cs => ([], cs)
  | _, _, [] => ([], [])
  | fuel + 1, stop, c :: cs =>
    let on (bytes : Bytes) (rest : List Char) : Bytes × List Char :=
      let (more, rest) := groupIn v forms a b g fuel stop rest
      (bytes ++ more, rest)
    if stop = some c then ([], c :: cs)
    else if c ≠ '%' then on (Bytes.ofString (String.singleton c)) cs
    else
      match cs with
      | '%' :: rest => on [0x25] rest
      | '<' :: rest => on (linesIn v forms.oldLine a g.first g.behindFirst) rest
      | '>' :: rest => on (linesIn v forms.newLine b g.second g.behindSecond) rest
      | '=' :: rest => on (linesIn v forms.commonLine a g.first g.behindFirst) rest
      | '(' :: rest =>
        match operand? g '=' rest with
        | some (m, rest) =>
          match operand? g '?' rest with
          | some (n, rest) =>
            let (yes, rest) := groupIn v forms a b g fuel (some ':') rest
            match rest with
            | [] => (if m = n then yes else [], [])
            | _ :: rest =>
              let (no, rest) := groupIn v forms a b g fuel (some ')') rest
              on (if m = n then yes else no) (rest.drop 1)
          | none => on [0x25] cs
        | none => on [0x25] cs
      | cs =>
        match directive? g.number? cs with
        | some (bytes, rest) => on bytes rest
        | none => on [0x25] cs

/-- The form in which each group is shown in a form of its own. -/
def groupForm (v : Layout) (forms : GroupForms) (a b : Side) (changes : List Change) : Bytes :=
  let show1 (form : String) (g : Group) : Bytes :=
    let cs := form.toList
    (groupIn v forms a b g (cs.length + 1) none cs).1
  let common (i j behindFirst behindSecond : Nat) : Bytes :=
    if i < behindFirst || j < behindSecond then show1 forms.commonGroup ⟨i, behindFirst, j, behindSecond⟩
    else []
  let (out, i, j) := changes.foldl (fun (acc : Bytes × Nat × Nat) c =>
    let (out, i, j) := acc
    let form := if c.added = 0 then forms.oldGroup else if c.dropped = 0 then forms.newGroup
      else forms.changedGroup
    (out ++ common i j c.first c.second ++ show1 form ⟨c.first, c.behindFirst, c.second, c.behindSecond⟩,
      c.behindFirst, c.behindSecond)) ([], 0, 0)
  out ++ common i j a.size b.size

/-- The forms in which the second text stands between the commands of a preprocessor that keep it when a
name is defined, and the first text when it is not. -/
def GroupForms.conditional (name : String) : List (String × String) :=
  [("unchanged-group-format", "%="),
    ("old-group-format", "#ifndef " ++ name ++ "\n%<#endif /* ! " ++ name ++ " */\n"),
    ("new-group-format", "#ifdef " ++ name ++ "\n%>#endif /* " ++ name ++ " */\n"),
    ("changed-group-format",
      "#ifndef " ++ name ++ "\n%<#else /* " ++ name ++ " */\n%>#endif /* " ++ name ++ " */\n")]

end Scratchpad.Shell.Differing
