import Scratchpad.Text.Character
import Scratchpad.Text.Utf8

/-!
# Request targets

A target is a path, which ends where its query or fragment begins, or a whole address, whose path
follows the name of its host, or a host alone, which has no path. In a path, a percent sign with two hexadecimal digits stands for a
byte; any other percent sign stands for itself.
-/

namespace Scratchpad.Http

/-- A target in its parts; the origin is what is in front of the path of a whole address, or a host
alone. -/
structure Target where
  origin : String
  path : String
  query : Option String
deriving DecidableEq, Repr

namespace Target

def isSchemeChar (c : Char) : Bool :=
  c.isAlphanum || c == '+' || c == '-' || c == '.'

/-- A scheme in the way that it is kept: the two of the web are written small. -/
def keptScheme (scheme : List Char) : List Char :=
  let small := scheme.map Char.toLower
  if small = "http".toList ∨ small = "https".toList then small else scheme

/-- The scheme and the host of a whole address, and what follows them. -/
def splitOrigin (cs : List Char) : List Char × List Char :=
  let scheme := cs.takeWhile isSchemeChar
  match scheme, cs.drop scheme.length with
  | _ :: _, ':' :: '/' :: '/' :: rest =>
    let host := rest.takeWhile fun c => c ≠ '/' && c ≠ '?' && c ≠ '#'
    (keptScheme scheme ++ "://".toList ++ host, rest.drop host.length)
  | _, _ => ([], cs)

/-- Reads a target. The path of a whole address is a slash at least. -/
def ofString (target : String) : Target :=
  let (origin, rest) := splitOrigin (target.toList.takeWhile (· ≠ '#'))
  let path := rest.takeWhile (· ≠ '?')
  if origin = [] ∧ path.head? ≠ some '/' ∧ path ≠ ['*'] then ⟨target, "", none⟩
  else
    ⟨String.ofList origin, String.ofList (if path = [] then ['/'] else path),
      match rest.drop path.length with
      | [] => none
      | _ :: query => some (String.ofList query)⟩

/-- Collects the bytes of a path, last one first. -/
def decodeOnto : Bytes → List Char → Bytes
  | acc, '%' :: a :: b :: rest =>
    match Text.hexValue? a, Text.hexValue? b with
    | some high, some low => decodeOnto (UInt8.ofNat (16 * high + low) :: acc) rest
    | _, _ => decodeOnto (0x25 :: acc) (a :: b :: rest)
  | acc, c :: rest => decodeOnto ((String.utf8EncodeChar c).reverse ++ acc) rest
  | acc, [] => acc.reverse
termination_by _ cs => cs.length

/-- The bytes that a path stands for. -/
def decode (cs : List Char) : Bytes :=
  decodeOnto [] cs

/-- The target with a slash after its path; a host alone has none. -/
def withSlash? (t : Target) : Option String :=
  if t.path = "" then none
  else
    match t.query with
    | none => some (t.origin ++ t.path ++ "/")
    | some query => some (t.origin ++ t.path ++ "/?" ++ query)

end Target
end Scratchpad.Http
