import Scratchpad.Shell.Finding.Query
import Scratchpad.Shell.Tools.Listing

/-!
# Forms with facts about found files

A form is read into pieces before the search begins, so that what is wrong with it is told once. Each
piece is filled with what is known of a file when it is found.
-/

namespace Scratchpad.Shell.Finding

open Files (Node Path)

/-- A file as it is found: its path, what stands there, where the search for it began, and how deep below
that it lies. -/
structure Sight where
  path : String
  node : Node
  start : String
  depth : Nat

namespace Sight

/-- The path as far as its last slash, and what comes behind it. -/
def parted (s : Sight) : Option String × String :=
  let cs := s.path.toList.reverse
  let tail := cs.takeWhile (· ≠ '/')
  if tail.length = cs.length then (none, s.path)
  else (some (String.ofList (cs.drop (tail.length + 1)).reverse), String.ofList tail.reverse)

/-- The last part of the path; slashes at its end belong to it. -/
def lastPart (s : Sight) : String :=
  let slashes := s.path.toList.reverse.takeWhile (· = '/')
  let body := String.ofList (s.path.toList.take (s.path.length - slashes.length))
  if body = "" then (if s.path = "" then "" else "/")
  else { s with path := body }.parted.2 ++ String.ofList slashes

/-- The name alone. -/
def name (s : Sight) : String :=
  let name := String.ofList (s.lastPart.toList.reverse.dropWhile (· = '/')).reverse
  if name = "" then s.lastPart else name

/-- The path from where the search began. -/
def below (s : Sight) : String :=
  let rest := s.path.toList.drop s.start.length
  String.ofList (if rest.head? = some '/' then rest.drop 1 else rest)

end Sight

/-- The letter of a kind. -/
def letterOf : Node → Char
  | .file .. => 'f'
  | .dir .. => 'd'
  | .link .. => 'l'
  | .pipe .. => 'p'
  | .device _ => 'c'

/-- The room that a node takes, in units of a thousand and twenty-four bytes. -/
def roomOf (n : Node) : Nat :=
  Tools.roomOf n

/-! ## Reading forms -/

/-- What is wrong with a form, or strange in it. -/
inductive FormFault
  | atEnd
  | reserved (c : Char)
deriving DecidableEq

def FormFault.message : FormFault → String
  | .atEnd => "find: error: % at end of format string"
  | .reserved c =>
    "find: error: the format directive " ++ String.singleton (Char.ofNat 96) ++ "%" ++ String.singleton c ++
      "' is reserved for future use"

def factLetters : List Char :=
  ['a', 'b', 'c', 'd', 'D', 'f', 'F', 'g', 'G', 'h', 'H', 'i', 'k', 'l', 'm', 'M', 'n', 'p', 'P', 's', 'S',
    't', 'u', 'U', 'y', 'Y']

/-- Letters behind which another one says which part of a time is meant. -/
def timeLetters : List Char := ['A', 'B', 'C', 'T']

def shownAs (text : String) : String :=
  String.singleton (Char.ofNat 96) ++ text ++ "'"

/-- The byte that a letter behind a backslash stands for. -/
def escapes : List (Char × UInt8) :=
  [('a', 7), ('b', 8), ('f', 12), ('n', 10), ('r', 13), ('t', 9), ('v', 11), ('\\', 0x5C)]

/-- The pieces of a form, and warnings. The fuel bounds its characters. -/
def piecesOf : Nat → List Char → Except FormFault (List Piece × List String)
  | 0, _ => .ok ([], [])
  | fuel + 1, cs =>
    let going (p : Piece) (rest : List Char) : Except FormFault (List Piece × List String) := do
      let (pieces, warnings) ← piecesOf fuel rest
      return (p :: pieces, warnings)
    let warned (p : Piece) (warning : String) (rest : List Char) :
        Except FormFault (List Piece × List String) := do
      let (pieces, warnings) ← piecesOf fuel rest
      return (p :: pieces, ("find: warning: " ++ warning) :: warnings)
    let literal (cs : List Char) : Piece := .bytes (Bytes.ofString (String.ofList cs))
    match cs with
    | [] => .ok ([], [])
    | ['\\'] => warned (literal ['\\']) ("escape " ++ shownAs "\\" ++ " followed by nothing at all") []
    | '\\' :: c :: rest =>
      if c = 'c' then .ok ([.stop], [])
      else if Files.Permissions.isOctal c then
        let digits := ((c :: rest).takeWhile Files.Permissions.isOctal).take 3
        going (.bytes [UInt8.ofNat (Files.Permissions.octal digits % 256)])
          ((c :: rest).drop digits.length)
      else
        match escapes.lookup c with
        | some b => going (.bytes [b]) rest
        | none =>
          warned (literal ['\\', c]) ("unrecognized escape " ++ shownAs (String.ofList ['\\', c])) rest
    | '%' :: '%' :: rest => going (.bytes [0x25]) rest
    | ['%'] => .error .atEnd
    | '%' :: behind =>
      let (layout, r) := Format.flags .narrow .plain behind
      let (width, r) := Format.digitsOf r
      let layout := { layout with width }
      let (layout, r) : Format.Layout × List Char := match r with
        | '.' :: r =>
          let (n, r) := Format.digitsOf r
          ({ layout with precision := some n }, r)
        | r => (layout, r)
      let written (rest : List Char) : List Char := '%' :: behind.take (behind.length - rest.length)
      match r with
      | [] => .error (.reserved ' ')
      | c :: rest =>
        if ['{', '[', '('].contains c then .error (.reserved c)
        else if factLetters.contains c then going (.fact layout c none) rest
        else if timeLetters.contains c then
          match rest with
          | d :: rest => going (.fact layout c (some d)) rest
          | [] =>
            warned (literal (written [])) ("format directive " ++ shownAs (String.ofList (written [])) ++
              " should be followed by another character") []
        else
          warned (literal (written rest))
            ("unrecognized format directive " ++ shownAs (String.ofList ['%', c])) rest
    | c :: rest => going (literal [c]) rest

/-! ## Filling forms -/

/-- A time in a form, with the fraction of its second behind it if asked. -/
def timeShown (s : Scene) (time : Int) (form : String) (exact : Bool) : String :=
  let seconds := time / 1000000000
  Time.Form.render ⟨seconds, 0, s.zone⟩ false form ++
    if exact then
      "." ++ String.ofList ((Nat.toDigits 10 (1000000000 + (time % 1000000000).toNat)).drop 1) ++ "0"
    else ""

/-- The part of a time that a letter says. -/
def timePart (s : Scene) (time : Int) (c : Char) : String :=
  match c with
  | '@' => toString (time / 1000000000) ++ timeShown s time "" true
  | '+' => timeShown s time "%Y-%m-%d+%H:%M:%S" true
  | c => timeShown s time ("%" ++ String.singleton c) (c = 'S' || c = 'T' || c = 'X')

def wholeTime (s : Scene) (time : Int) : String :=
  timeShown s time "%a %b %e %H:%M:%S" true ++ timeShown s time " %Y" false

/-- What a letter says of a file. -/
def factOf (s : Scene) (f : Sight) (c : Char) (detail : Option Char) : String :=
  let t := f.node.traits
  let listed : Tools.Listed := ⟨f.name, f.path, f.node⟩
  let time (clock : Clock) : String :=
    match detail with
    | some d => timePart s (clock.of f.node) d
    | none => wholeTime s (clock.of f.node)
  match c with
  | 'a' | 'A' => time .used
  | 'c' | 'C' | 't' | 'T' | 'B' => time .changed
  | 'b' => (2 * roomOf f.node).repr
  | 'k' => (roomOf f.node).repr
  | 'f' => f.lastPart
  | 'F' => "overlay"
  | 'g' => Tools.nameOfNumber Tools.groupNames t.group
  | 'G' => t.group.repr
  | 'h' => (f.parted.1).getD "."
  | 'H' => f.start
  | 'i' => (Tools.identityOf listed).repr
  | 'D' => "65025"
  | 'l' =>
    match f.node with
    | .link _ target => Tools.textOf target
    | _ => ""
  | 'M' => Files.Permissions.shown f.node
  | 'n' => (s.files.nameCount f.node).repr
  | 'p' => f.path
  | 'P' => f.below
  | 's' => (Tools.sizeOf f.node).repr
  | 'S' => "1"
  | 'u' => Tools.nameOfNumber Tools.users t.owner
  | 'U' => t.owner.repr
  | 'y' => String.singleton (letterOf f.node)
  | 'Y' =>
    match s.files.node? (Path.ofString f.path) with
    | .ok node => String.singleton (letterOf node)
    | .error .linkLoop => "L"
    | .error _ => "N"
  | _ => ""

/-- A form filled with facts about a file. -/
def filled (s : Scene) (f : Sight) : List Piece → Bytes
  | [] => []
  | .stop :: _ => []
  | .bytes bytes :: rest => bytes ++ filled s f rest
  | .fact layout c detail :: rest =>
    let field := match c with
      | 'd' => Format.numberField layout (if layout.plus then ['+'] else []) (Nat.toDigits 10 f.depth)
      | 'm' =>
        let mark : List Char := if layout.marked && f.node.traits.mode ≠ 0 then ['0'] else []
        Format.numberField layout [] (mark ++ Nat.toDigits 8 f.node.traits.mode)
      | c => Format.textField layout (Bytes.ofString (factOf s f c detail))
    field ++ filled s f rest

/-- All that is known of a file in a line. -/
def described (s : Scene) (f : Sight) : String :=
  let t := f.node.traits
  let left (n : Nat) (text : String) : String := String.ofList (List.replicate (n - text.length) ' ') ++ text
  let right (n : Nat) (text : String) : String := text ++ String.ofList (List.replicate (n - text.length) ' ')
  let seconds := t.changed / 1000000000
  let isRecent := seconds ≤ s.now.1 + 3600 && s.now.1 - 15778476 < seconds
  let size := match f.node with
    | .device _ => "  1,   3"
    | node => left 8 (Tools.sizeOf node).repr
  left 9 (factOf s f 'i' none) ++ " " ++ left 6 (roomOf f.node).repr ++ " " ++
    Files.Permissions.shown f.node ++ " " ++ left 3 (s.files.nameCount f.node).repr ++ " " ++
    right 8 (factOf s f 'u' none) ++ " " ++ right 8 (factOf s f 'g' none) ++ " " ++ size ++ " " ++
    timeShown s t.changed (if isRecent then "%b %e %H:%M" else "%b %e  %Y") false ++ " " ++ f.path ++
    (match f.node with
      | .link _ target => " -> " ++ Tools.textOf target
      | _ => "") ++ "\n"

end Scratchpad.Shell.Finding
