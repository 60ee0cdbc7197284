import Scratchpad.Shell.Pattern
import Scratchpad.Shell.ByteText
import Scratchpad.Shell.Fields
import Scratchpad.Shell.State

/-!
# Wildcards in paths

A field with wildcards that are not quoted stands for the paths that it matches, in order, and for
itself if there are none. A wildcard matches no slash, and no dot in front of a name.
-/

namespace Scratchpad.Shell

open Files (Path System)

namespace Field

/-- A field as bytes, with a mark on those that stand only for themselves. -/
def bytes (f : Field) : List (UInt8 × Bool) :=
  f.map fun (c, quoted) => (UInt8.ofNat c.toNat, quoted)

/-- Are there wildcards in a field? With `groups` there may be groups of patterns as well. -/
def isWild (groups : Bool) (f : Field) : Bool :=
  f.any (fun (c, quoted) => !quoted && ['*', '?', '['].contains c) ||
    (groups && (f.zip f.tail).any fun ((c, quoted), (d, quotedToo)) =>
      !quoted && !quotedToo && ['+', '@', '!'].contains c && d = '(')

/-- Are these two stars, which stand for any directories? -/
def isDeep (f : Field) : Bool :=
  f = [('*', false), ('*', false)]

end Field

/-- What wildcards may do: there may be groups of patterns, they may match dots in front of names, two
stars may go down into directories, and letters may match those of the other case. -/
structure Wilds where
  groups : Bool
  dots : Bool
  deep : Bool
  anyCase : Bool

def State.wilds (st : State) : Wilds where
  groups := st.knowsGroups
  dots := st.manners.contains "dotglob"
  deep := st.manners.contains "globstar"
  anyCase := st.manners.contains "nocaseglob"

namespace Field

def pattern (w : Wilds) (f : Field) : Pattern :=
  let p := Pattern.ofWildcards w.groups (f.bytes.length + 1) f.bytes
  if w.anyCase then p.ignoringCase else p

def listed (files : System) (dir : Path) : List Files.Name :=
  (files.list (if dir = [] then [Path.dot] else dir)).toOption.getD []

/-- The names in a directory that a part of a path matches. -/
def namesIn (w : Wilds) (files : System) (dir : Path) (f : Field) : List Files.Name :=
  let hidden := f.head?.any (·.1 = '.')
  let names := listed files dir
  let names := if hidden then [[Path.dot], [Path.dot, Path.dot]] ++ names else names
  names.filter fun name =>
    (hidden || w.dots || name.head? ≠ some Path.dot) && (f.pattern w).matchesAll name

def isThere (files : System) (p : Path) : Bool :=
  match files.resolve false p with
  | .ok (.found ..) => true
  | _ => false

def isRealDir (files : System) (p : Path) : Bool :=
  match files.resolve false p with
  | .ok (.found _ (.dir ..)) => true
  | _ => false

/-- All that is below a directory, directories alone if so asked. The fuel bounds the depth. -/
def below (w : Wilds) (files : System) (dirsOnly : Bool) : Nat → Path → List Path
  | 0, _ => []
  | fuel + 1, base =>
    let names := (listed files base).filter fun name => w.dots || name.head? ≠ some Path.dot
    names.flatMap fun name =>
      let path := base ++ name
      if isRealDir files path then path :: below w files dirsOnly fuel (path ++ [Path.slash])
      else if dirsOnly then [] else [path]

def deepest : Nat := 64

/-- Goes on with some paths through the parts that follow. -/
def walk (w : Wilds) (files : System) (bases : List Path) : List Field → List Path
  | [] => bases
  | part :: rest =>
    if w.deep && part.isDeep then
      if rest = [] then
        bases.flatMap fun base =>
          (if base = [] then [] else [base]) ++ below w files false deepest base
      else
        walk w files (bases.flatMap fun base =>
          base :: (below w files true deepest base).map (· ++ [Path.slash])) rest
    else
      let found :=
        if part.isWild w.groups then bases.flatMap fun base => (part.namesIn w files base).map (base ++ ·)
        else bases.map fun base => base ++ part.bytes.map (·.1)
      if rest = [] then found else walk w files (found.map (· ++ [Path.slash])) rest

/-- The texts that a field with wildcards stands for. -/
def paths? (w : Wilds) (files : System) (f : Field) : Option (List (List Char)) :=
  if !f.isWild w.groups then none
  else
    let parts := f.splitOnP fun (c, _) => c = '/'
    let found := (walk w files [[]] parts).filter (isThere files)
    some ((found.eraseDups.mergeSort fun a b => compare a b != .gt).map ByteText.ofBytes)

end Field
end Scratchpad.Shell
