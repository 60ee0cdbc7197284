import Scratchpad.Text.Utf8

/-!
# Paths

A path is a sequence of bytes, its parts separated by slashes. Repeated and trailing slashes and
parts that are a single dot carry no meaning here, except for a dot in front. The functions are
lexical: they do not look at files.
-/

namespace Scratchpad.Files

abbrev Name := Bytes

abbrev Path := Bytes

namespace Path

def slash : UInt8 := 0x2F
def dot : UInt8 := 0x2E

def ofString (s : String) : Path := Bytes.ofString s

/-- The text shown for a path; bytes that are no text read as `U+FFFD`. -/
def display (p : Path) : String :=
  String.ofList (Text.Utf8.lossy p)

def isAbsolute (p : Path) : Bool :=
  p.head? == some slash

def endsInSlash (p : Path) : Bool :=
  p.getLast? == some slash

/-- The bytes between slashes. -/
def split (p : Path) : List Name :=
  p.splitOn slash

/-- The parts to walk; a slash at the end, which asks for a directory, is a part without a name. -/
def segments (p : Path) : List Name :=
  let parts := (split p).filter (· ≠ [])
  if endsInSlash p then parts ++ [[]] else parts

/-- The path without slashes at its end; the root stays. -/
def dropSlashes (p : Path) : Path :=
  let rest := (p.reverse.dropWhile (· = slash)).reverse
  if rest = [] then p.take 1 else rest

/-- Is the last part a dot or two? -/
def endsInDots (p : Path) : Bool :=
  match ((split p).filter (· ≠ [])).getLast? with
  | some name => name = [dot] || name = [dot, dot]
  | none => false

/-- Drops trailing slashes and dots from a reversed path, but keeps the root. -/
def trimReversed : List UInt8 → List UInt8
  | [] => []
  | [c] => [c]
  | c :: d :: rest =>
    if c = slash then trimReversed (d :: rest)
    else if c = dot && d = slash then trimReversed (d :: rest)
    else c :: d :: rest

/-- The last part of a path and all that is before it; there is none in the root and in the empty
path. -/
def lastPart? (p : Path) : Option (Path × Name) :=
  let r := trimReversed p.reverse
  if r = [] ∨ r = [slash] then none
  else
    some ((trimReversed (r.dropWhile (· ≠ slash))).reverse, (r.takeWhile (· ≠ slash)).reverse)

def parent? (p : Path) : Option Path :=
  (lastPart? p).map (·.1)

/-- The last part, unless it is a dot or two. -/
def fileName? (p : Path) : Option Name := do
  let (_, name) ← lastPart? p
  if name = [dot] ∨ name = [dot, dot] then none else some name

/-- A name without its extension, which is what follows the last dot unless that dot is in front. -/
def stemOf (name : Name) : Name :=
  let before := name.reverse.dropWhile (· ≠ dot)
  if before.length ≤ 1 then name else (before.drop 1).reverse

/-- The extension of a name, if it has one. -/
def extensionOf? (name : Name) : Option Name :=
  if stemOf name = name then none else some (name.drop ((stemOf name).length + 1))

/-- The path with an extension in place of the one it has; a path without a file name is left as it
is. -/
def setExtension (p : Path) (extension : Name) : Path :=
  match lastPart? p, fileName? p with
  | some _, some name =>
    let r := trimReversed p.reverse
    (r.dropWhile (· ≠ slash)).reverse ++ stemOf name ++ dot :: extension
  | _, _ => p

/-- The path with another extension. The old one is taken away first, and what is left then may be no
file name any more. -/
def withExtension (p : Path) (extension : Name) : Path :=
  match (fileName? p).bind extensionOf? with
  | some old => setExtension (p.take (p.length - old.length)) extension
  | none => setExtension p extension

/-- The path of an entry of a directory. -/
def join (dir : Path) (name : Name) : Path :=
  if dir = [] ∨ endsInSlash dir then dir ++ name else dir ++ slash :: name

end Path
end Scratchpad.Files
