import Scratchpad.Shell.Tools.Keys

/-!
# Sorting lines

The tool that puts lines into order.
-/

namespace Scratchpad.Shell.Tools

open Deed (complaint ofWrites told waiting)

/-! ## Putting lines in order -/

/-- How lines are ordered: by keys, and by all of their bytes when no key tells them apart, unless
their order or only one of them is to be kept. -/
structure Sorting where
  keys : List Key
  tab : Option UInt8
  reversed : Bool
  stable : Bool
  unique : Bool

namespace Sorting

def byKeys (o : Sorting) (a b : Bytes) : Ordering :=
  o.keys.foldl (fun found k => found.then (k.order o.tab a b)) .eq

def order (o : Sorting) (a b : Bytes) : Ordering :=
  let found := o.byKeys a b
  if o.keys ≠ [] && (o.stable || o.unique) then found
  else found.then (if o.reversed then compare b a else compare a b)

/-- Of lines that are told apart by nothing, only the first. -/
def thin (o : Sorting) (lines : List Bytes) : List Bytes :=
  if o.unique then
    (lines.foldl (fun (acc : List Bytes) line =>
      if acc.head?.any fun before => o.order before line == .eq then acc else line :: acc)
      []).reverse
  else lines

def sort (o : Sorting) (lines : List Bytes) : List Bytes :=
  o.thin (lines.mergeSort fun a b => o.order a b != .gt)

/-- Lines of several files that are in order already. -/
def merge (o : Sorting) (files : List (List Bytes)) : List Bytes :=
  o.thin (files.foldl (fun lines more => lines.merge more fun a b => o.order a b != .gt) [])

/-- The first line that is out of order, and its number. -/
def disorder? (o : Sorting) (lines : List Bytes) : Option (Nat × Bytes) :=
  ((lines.zip (lines.drop 1)).zipIdx 2).findSome? fun ((before, line), n) =>
    match o.order before line with
    | .gt => some (n, line)
    | .eq => if o.unique then some (n, line) else none
    | .lt => none

end Sorting

def sortForms : List OptionForm :=
  [.flag 'b' "ignore-leading-blanks", ⟨none, "check", .perhaps⟩, .flag 'c' "c", .flag 'C' "C",
    .longValued "compress-program", .longFlag "debug", .flag 'd' "dictionary-order",
    .flag 'f' "ignore-case", .longValued "files0-from", .flag 'g' "general-numeric-sort",
    .flag 'i' "ignore-nonprinting", .valued 'k' "key", .flag 'm' "merge", .flag 'M' "month-sort",
    .flag 'n' "numeric-sort", .flag 'h' "human-numeric-sort", .flag 'V' "version-sort",
    .flag 'R' "random-sort", .longValued "random-source", .longValued "sort", .valued 'o' "output",
    .flag 'r' "reverse", .flag 's' "stable", .longValued "batch-size", .valued 'S' "buffer-size",
    .valued 't' "field-separator", .valued 'T' "temporary-directory", .flag 'u' "unique",
    .flag 'z' "zero-terminated", .longValued "parallel"]

/-- The letters of the rules for all keys. -/
def ruleLetters (found : Options) : List Char :=
  found.filterMap fun (name, value) =>
    match name, value with
    | "ignore-leading-blanks", _ => some 'b'
    | "dictionary-order", _ => some 'd'
    | "ignore-case", _ => some 'f'
    | "general-numeric-sort", _ | "sort", "general-numeric" => some 'g'
    | "human-numeric-sort", _ | "sort", "human-numeric" => some 'h'
    | "ignore-nonprinting", _ => some 'i'
    | "month-sort", _ | "sort", "month" => some 'M'
    | "numeric-sort", _ | "sort", "numeric" => some 'n'
    | "reverse", _ => some 'r'
    | "random-sort", _ | "sort", "random" => some 'R'
    | "version-sort", _ | "sort", "version" => some 'V'
    | _, _ => none

/-- The byte that parts fields. -/
def tabOf (found : Options) : Except String (Option UInt8) :=
  match (found.all "field-separator").map Bytes.ofString with
  | [] => .ok none
  | texts =>
    let tabs := texts.map fun text =>
      match text with
      | [] => Except.error "empty tab"
      | [b] => .ok b
      | [0x5C, 0x30] => .ok 0
      | text => .error ("multi-character tab " ++ Quoting.value (String.ofList (Text.Utf8.lossy text)))
    match tabs.mapM id with
    | .error text => .error text
    | .ok (b :: bs) => if bs.any (· ≠ b) then .error "incompatible tabs" else .ok (some b)
    | .ok [] => .ok none

/-- The sorting that options ask for. -/
def Sorting.ofOptions (found : Options) : Except String Sorting := do
  let tab ← tabOf found
  let letters := ruleLetters found
  let general := { Key.whole with
    skipsBefore := letters.contains 'b', skipsWithin := letters.contains 'b' }.withLetters letters
  let keys ← (found.all "key").mapM fun spec => (Key.ofString spec).mapError Key.Fault.message
  let keys := keys.map fun k =>
    if k.isPlain && !k.has 'r' then
      { k with
        letters := general.letters
        skipsBefore := general.skipsBefore
        skipsWithin := general.skipsWithin }
    else k
  let keys := if keys.isEmpty && !general.isPlain then [general] else keys
  match (general :: keys).findSome? Key.conflict? with
  | some shown => throw ("options '-" ++ shown ++ "' are incompatible")
  | none =>
    return {
      keys, tab
      reversed := general.has 'r'
      stable := found.has "stable"
      unique := found.has "unique" }

/-- Puts lines into order, or says whether they are. -/
def sort (s : Scene) : Deed :=
  reading s "sort" 2 sortForms fun found operands =>
    match Sorting.ofOptions found with
    | .error text => complaint s ("sort: " ++ text) 2
    | .ok o =>
      let mark := lineEnd found "zero-terminated"
      let quiet := found.has "C" || found.any fun (name, value) =>
        name = "check" && (value = "quiet" || value = "silent")
      let checks := quiet || found.has "c" || found.has "check"
      let blame : Blame := fun name e =>
        if e = .isDirectory then "read failed: " ++ plainly name e
        else "cannot read: " ++ plainly name e
      match checks, operands with
      | true, _ :: extra :: _ =>
        complaint s ("sort: extra operand " ++ Quoting.value extra ++ " not allowed with -c") 2
      | _, operands =>
        finding s "sort" blame operands fun f =>
          if !f.isFine then { f.answer [] with writes := f.errors.take 1, code := some 2 }
          else if checks then
            match o.disorder? (f.texts.flatMap fun (_, bytes) => partsOf mark bytes) with
            | none => f.answer []
            | some (n, line) =>
              let place := Quoting.name ((f.texts.map (·.1)).headD "-") ++ ":" ++ n.repr
              let told := (Outlet.err, Bytes.ofString ("sort: " ++ place ++ ": disorder: ") ++ line ++
                [newline])
              { f.answer [] with writes := if quiet then [] else [told], code := some 1 }
          else
            let lines := f.texts.map fun (_, bytes) => partsOf mark bytes
            let out := ofParts mark (if found.has "merge" then o.merge lines else o.sort lines.flatten)
            match found.value? "output" with
            | none => f.answer out
            | some target =>
              let d := writing s "sort" (fun name e => "open failed: " ++ plainly name e) target out
                (f.answer [])
              if d.code = some 1 then { d with code := some 2 } else d

end Scratchpad.Shell.Tools
