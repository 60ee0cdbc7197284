import Scratchpad.Shell.Tools.Basic

/-!
# Characters

The tool that replaces, deletes and squeezes bytes. It is given sets of bytes: single ones, ranges,
classes, and bytes that are repeated, as often as they are needed if no number is given.
-/

namespace Scratchpad.Shell.Tools

open Deed (complaint passing)

/-- A member of a set of bytes. -/
inductive SetPart
  | one (b : UInt8)
  | range (low high : UInt8)
  | named (name : String) (bytes : Bytes)
  | repeated (b : UInt8) (times : Option Nat)

/-- A byte of a set as it is written, and whether it was escaped. -/
abbrev SetByte := UInt8 × Bool

/-- The bytes of a set with their escapes read. -/
def unescapeSet : Bytes → List SetByte
  | [] => []
  | 0x5C :: b :: r =>
    let isOctal (b : UInt8) : Bool := 0x30 ≤ b && b ≤ 0x37
    let value (ds : Bytes) : Nat := ds.foldl (fun n d => n * 8 + (d.toNat - 0x30)) 0
    if isOctal b then
      match r with
      | c :: d :: rest =>
        if isOctal c && isOctal d && value [b, c, d] < 256 then
          (UInt8.ofNat (value [b, c, d]), true) :: unescapeSet rest
        else if isOctal c then (UInt8.ofNat (value [b, c]), true) :: unescapeSet (d :: rest)
        else (UInt8.ofNat (value [b]), true) :: unescapeSet (c :: d :: rest)
      | [c] =>
        if isOctal c then [(UInt8.ofNat (value [b, c]), true)]
        else [(UInt8.ofNat (value [b]), true), (c, false)]
      | [] => [(UInt8.ofNat (value [b]), true)]
    else
      let letters : List (Char × UInt8) :=
        [('a', 7), ('b', 8), ('t', 9), ('n', 10), ('v', 11), ('f', 12), ('r', 13)]
      ((letters.lookup (Char.ofNat b.toNat)).getD b, true) :: unescapeSet r
  | b :: r => (b, false) :: unescapeSet r

/-- How a byte of a range is shown. -/
def showSetByte (b : UInt8) : String :=
  if Quoting.isPrintable b then Quoting.printed b else "\\" ++ padOctal 3 b.toNat

/-- What stands between two marks up to the one before a closing bracket, and the rest. -/
def upToDelimiter (mark : UInt8) : List SetByte → Option (Bytes × List SetByte)
  | (b, false) :: (0x5D, false) :: r =>
    if b = mark then some ([], r)
    else (upToDelimiter mark ((0x5D, false) :: r)).map fun (bytes, rest) => (b :: bytes, rest)
  | (b, _) :: r => (upToDelimiter mark r).map fun (bytes, rest) => (b :: bytes, rest)
  | [] => none

/-- A repeated byte in brackets after the opening one. -/
def repetition? : List SetByte → Except String (Option (SetPart × List SetByte))
  | (b, _) :: (0x2A, false) :: r =>
    let body := r.takeWhile fun (c, escaped) => !(c = 0x5D && !escaped)
    match r.drop body.length with
    | [] => .ok none
    | _ :: rest =>
      let digits := body.map fun (c, _) => Char.ofNat c.toNat
      let base := if digits.head? = some '0' then 8 else 10
      if digits = [] then .ok (some (.repeated b none, rest))
      else if digits.all fun c => '0' ≤ c && c.toNat < 48 + base then
        let n := digits.foldl (fun n c => n * base + (c.toNat - 48)) 0
        .ok (some (.repeated b (if n = 0 then none else some n), rest))
      else
        .error ("invalid repeat count " ++ Quoting.value (String.ofList digits) ++
          " in [c*n] construct")
  | _ => .ok none

/-- The members of a set. The fuel bounds their number. -/
def setParts : Nat → List SetByte → Except String (List SetPart)
  | 0, _ => .ok []
  | fuel + 1, cs =>
    match cs with
    | (0x5B, false) :: (mark, false) :: r =>
      let bracketed : Except String (Option (SetPart × List SetByte)) :=
        if mark = 0x3A || mark = 0x3D then
          match upToDelimiter mark r with
          | none => repetition? ((mark, false) :: r)
          | some (bytes, rest) =>
            let name := String.ofList (Text.Utf8.lossy bytes)
            if mark = 0x3A then
              if bytes = [] then .error "missing character class name '[::]'"
              else
                match classOf? name with
                | some members => .ok (some (.named name members, rest))
                | none => .error ("invalid character class " ++ Quoting.value name)
            else
              match bytes with
              | [] => .error "missing equivalence class character '[==]'"
              | [b] => .ok (some (.named "=" [b], rest))
              | _ => .error (name ++ ": equivalence class operand must be a single character")
        else repetition? ((mark, false) :: r)
      match bracketed with
      | .error text => .error text
      | .ok (some (part, rest)) => (setParts fuel rest).map (part :: ·)
      | .ok none => plain fuel cs
    | cs => plain fuel cs
where
  plain (fuel : Nat) : List SetByte → Except String (List SetPart)
    | (low, _) :: (0x2D, false) :: (high, _) :: r =>
      if high < low then
        .error ("range-endpoints of '" ++ showSetByte low ++ "-" ++ showSetByte high ++
          "' are in reverse collating sequence order")
      else (setParts fuel r).map (SetPart.range low high :: ·)
    | (b, _) :: r => (setParts fuel r).map (SetPart.one b :: ·)
    | [] => .ok []

def setOf (text : String) : Except String (List SetPart) :=
  let bytes := unescapeSet (Bytes.ofString text)
  setParts (bytes.length + 1) bytes

/-- The bytes of a member; one that is repeated as needed stands `spare` times. -/
def SetPart.bytes (spare : Nat) : SetPart → Bytes
  | .one b => [b]
  | .range low high =>
    (List.range (high.toNat + 1 - low.toNat)).map fun i => UInt8.ofNat (low.toNat + i)
  | .named _ bytes => bytes
  | .repeated b times => List.replicate (times.getD spare) b

def SetPart.isOpen : SetPart → Bool
  | .repeated _ none => true
  | _ => false

/-- Is a member a class in which the case of letters matters? -/
def SetPart.isCase : SetPart → Bool
  | .named name _ => name = "upper" || name = "lower"
  | _ => false

/-- The bytes of a set that is to have some size. -/
def expandSet (size : Nat) (parts : List SetPart) : Bytes :=
  let fixed := parts.flatMap (SetPart.bytes 0)
  parts.flatMap (SetPart.bytes (size - fixed.length))

/-- Drops a byte of the set that repeats the byte before it. -/
def squeeze (set : Bytes) (f : Flow) : Flow :=
  let keep (bytes : Bytes) (before : Option UInt8) : Bytes :=
    (bytes.foldl (fun (acc : Bytes × Option UInt8) b =>
      if set.contains b && acc.2 == some b then acc else (b :: acc.1, some b))
      ([], before)).1.reverse
  let first := keep f.first none
  if f.isEndless then
    { first := first ++ keep f.cycle first.getLast?, cycle := keep f.cycle f.cycle.getLast? }
  else { first := first, cycle := [] }

def others (set : Bytes) : Bytes :=
  ((List.range 256).map UInt8.ofNat).filter fun b => !set.contains b

/-- Which byte each byte of a set becomes. -/
def translation (complement truncates : Bool) (first second : List SetPart) :
    Except String (List (UInt8 × UInt8)) := do
  let listed := expandSet 0 first
  let set := if complement then others listed else listed
  let isClass : SetPart → Bool
    | .named .. => true
    | _ => false
  let target := expandSet set.length second
  if second.any fun p => isClass p && !p.isCase then
    .error ("when translating, the only character classes that may appear in\n" ++
      "string2 are 'upper' and 'lower'")
  else if second.any SetPart.isCase && !first.any SetPart.isCase then
    .error "misaligned [:upper:] and/or [:lower:] construct"
  else if complement && first.any isClass && target.any (some · ≠ target.head?) then
    .error ("when translating with complemented character classes,\n" ++
      "string2 must map all characters in the domain to one")
  else
    match target.getLast? with
    | none =>
      if truncates || set = [] then .ok []
      else .error "when not truncating set1, string2 must be non-empty"
    | some last =>
      if !truncates && target.length < set.length && (second.getLast?.any SetPart.isCase) then
        .error ("when translating with string1 longer than string2,\n" ++
          "the latter string must not end with a character class")
      else
        .ok (set.zip (if truncates then target
          else target ++ List.replicate (set.length - target.length) last))

/-- Replaces, deletes or squeezes bytes. -/
def tr (s : Scene) : Deed :=
  readingFirst s "tr" 1 [.flag 'c' "complement", .flag 'C' "complement", .flag 'd' "delete",
    .flag 's' "squeeze-repeats", .flag 't' "truncate-set1"] fun found operands =>
    let complement := found.has "complement"
    let deleting := found.has "delete"
    let squeezing := found.has "squeeze-repeats"
    let fails (text : String) : Deed := complaint s ("tr: " ++ text) 1
    let lacks (operand why : String) : Deed :=
      fails ("missing operand after " ++ Quoting.value operand ++ "\n" ++ why ++
        "\nTry 'tr --help' for more information.")
    let out (f : Flow) : Deed := passing f .empty 0
    let inSet (parts : List SetPart) : Bytes :=
      if complement then others (expandSet 0 parts) else expandSet 0 parts
    let without (set : Bytes) : Flow := s.input.flatMap fun b => if set.contains b then [] else [b]
    match operands with
    | [] => missingOperand s "tr"
    | first :: rest =>
      match rest with
      | _ :: extra :: _ => extraOperand s "tr" extra
      | rest =>
        if rest = [] && deleting = squeezing then
          lacks first (if deleting then
              "Two strings must be given when both deleting and squeezing repeats."
            else "Two strings must be given when translating.")
        else if rest ≠ [] && deleting && !squeezing then
          fails ("extra operand " ++ Quoting.value (rest.headD "") ++
            "\nOnly one string may be given when deleting without squeezing repeats." ++
            "\nTry 'tr --help' for more information.")
        else
          match setOf first, setOf (rest.headD "") with
          | .error text, _ | _, .error text => fails text
          | .ok set, .ok target =>
            if set.any SetPart.isOpen then
              fails "the [c*] repeat construct may not appear in string1"
            else if 1 < target.countP SetPart.isOpen then
              fails "only one [c*] repeat construct may appear in string2"
            else if deleting then
              if squeezing then out (squeeze (expandSet 0 target) (without (inSet set)))
              else out (without (inSet set))
            else if rest = [] then out (squeeze (inSet set) s.input)
            else
              match translation complement (found.has "truncate-set1") set target with
              | .error text => fails text
              | .ok pairs =>
                let table := pairs.reverse
                let images := (List.range 256).map fun n =>
                  (table.lookup (UInt8.ofNat n)).getD (UInt8.ofNat n)
                let images := images.toArray
                let changed := s.input.flatMap fun b => [images.getD b.toNat b]
                out (if squeezing then
                    squeeze (expandSet (inSet set).length target) changed
                  else changed)

end Scratchpad.Shell.Tools
