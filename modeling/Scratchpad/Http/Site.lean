import Scratchpad.Files.System
import Scratchpad.Http.ByteRange
import Scratchpad.Http.Date
import Scratchpad.Http.MediaType
import Scratchpad.Http.Message
import Scratchpad.Http.Target

/-!
# Static sites

A site serves the files below a directory. A path never leads out of the directory: two dots are
refused, written as they are or as escapes. A directory is shown by the file `index.html` in it,
under a path that ends in a slash; without the slash the client is sent there. A request may ask for
a file only if it was changed after some time, or only if it was not, and for a part of it.
-/

namespace Scratchpad.Http.Site

open Files (Name Node Path System)

/-- Adds the parts of a decoded path to the base, unless it begins at a root or goes up. -/
def locate (base decoded : Path) : Option Path :=
  if decoded.isAbsolute then none
  else
    let parts := (Path.split decoded).filter fun part => part ≠ [] ∧ part ≠ [Path.dot]
    if parts.contains [Path.dot, Path.dot] then none
    else some (parts.foldl Path.join base)

/-- The file that a path of a request asks for, if it may be asked for. -/
def fileFor (base : Path) (path : String) : Option Path := do
  let decoded := Target.decode (path.toList.dropWhile (· = '/'))
  let _ ← decoded.text?
  locate base decoded

/-- What a reader is told of a file that cannot be opened. A name that no file can have is looked
for only where its contents are asked for, and is then merely missing. -/
def refusal (m : Method) : Files.Error → Response
  | .noEntry | .permission | .notDirectory => .bare 404
  | .nulInPath => .bare (if m = .head then 500 else 404)
  | _ => .bare 500

/-- Headers hold printable characters of ASCII; others are passed over. -/
def isReadable (value : String) : Bool :=
  value.toList.all fun c => c == '\t' || (0x20 ≤ c.toNat && c.toNat < 0x7F)

/-- The time that a header holds, if it holds one. -/
def time? (r : Request) (name : String) : Option Nat := do
  let value ← r.header? name
  return (← Date.ofString? value).seconds

/-- The answer to a request whose conditions a file does not meet that was changed at some time. -/
def unmet? (r : Request) (changed : Nat) : Option Response :=
  if (time? r "if-unmodified-since").any (· < changed) then some (.bare 412)
  else if (time? r "if-modified-since").any (changed ≤ ·) then some (.bare 304)
  else none

/-- The response with some contents of some size, or with the one part of them that is asked for. -/
def deliver (r : Request) (mediaType : String) (size : Nat) (contents : Bytes) : Response :=
  match (r.header? "range").filter isReadable with
  | none => .typed 200 mediaType contents
  | some value =>
    match ByteRange.spans? size value with
    | none => .typed 416 mediaType []
    | some [span] => .typed 206 mediaType (span.cut contents)
    | some _ => .typed 416 mediaType (Bytes.ofString "Cannot serve multipart range requests")

/-- How many bytes a directory is said to have; none of them can be read. -/
def directorySize : Nat := 4096

/-- When a node was changed, in seconds since the beginning of 1970. -/
def changedAt (n : Node) : Nat :=
  (n.traits.changed / 1000000000).toNat

/-- The response with a file. A directory in its place can be opened, but not read. -/
def serveFile (fs : System) (r : Request) (file : Path) : Response :=
  match fs.node? file with
  | .error e => refusal r.method e
  | .ok node =>
    let serve (size : Nat) (contents : Bytes) : Response :=
      (unmet? r (changedAt node)).getD (deliver r (MediaType.ofPath file) size contents)
    if node.isDir then serve directorySize []
    else
      let contents := (fs.read file).toOption.getD []
      serve contents.length contents

/-- The answer to a request for a file. -/
def find (fs : System) (base : Path) (r : Request) : Response :=
  let target := Target.ofString r.target
  match fileFor base target.path with
  | none => .bare 404
  | some file =>
    if fs.isDir file then
      if target.path.toList.getLast? = some '/' then
        serveFile fs r (file.join (Path.ofString "index.html"))
      else
        match target.withSlash? with
        | some location => ⟨307, [("location", location)], []⟩
        | none => .bare 500
    else serveFile fs r file

/-- Answers a request; a site knows no methods but `GET` and `HEAD`. -/
def answer (fs : System) (base : Path) (r : Request) : Response :=
  match r.method with
  | .get => find fs base r
  | .head => (find fs base r).withoutBody
  | _ => ⟨405, [("allow", "GET,HEAD")], []⟩

end Scratchpad.Http.Site
