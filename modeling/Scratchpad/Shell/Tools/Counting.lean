import Scratchpad.Shell.Tools.Basic

/-!
# Tools that count

The tools that say how much there is of something.
-/

namespace Scratchpad.Shell.Tools

open Deed (complaint)

/-- How many words there are: a word begins with a visible character and ends before a space. -/
def wordCount (bytes : Bytes) : Nat :=
  (bytes.foldl (fun (acc : Nat × Bool) b =>
    if isSpace b then (acc.1, false)
    else if 0x20 < b && b < 0x7F then (if acc.2 then acc else (acc.1 + 1, true))
    else acc) (0, false)).1

/-- The width of the longest line when it is printed; a tab goes on to the next multiple of eight. -/
def longestLine (bytes : Bytes) : Nat :=
  let (longest, last) := bytes.foldl (fun (acc : Nat × Nat) b =>
    let (longest, here) := acc
    if b = newline || b = 13 || b = 12 then (max longest here, 0)
    else if b = 9 then (longest, here + (8 - here % 8))
    else if Quoting.isPrintable b then (longest, here + 1)
    else acc) (0, 0)
  max longest last

/-- What is counted, in the order in which it is shown. -/
def countsOf (wants : String → Bool) (bytes : Bytes) : List Nat :=
  (if wants "lines" then [bytes.count newline] else []) ++
  (if wants "words" then [wordCount bytes] else []) ++
  (if wants "chars" then [bytes.length] else []) ++
  (if wants "bytes" then [bytes.length] else []) ++
  (if wants "max-line-length" then [longestLine bytes] else [])

/-- Counts lines, words and bytes. -/
def wc (s : Scene) : Deed :=
  let counted := ["lines", "words", "chars", "bytes", "max-line-length"]
  reading s "wc" 1 [.flag 'l' "lines", .flag 'w' "words", .flag 'm' "chars", .flag 'c' "bytes",
    .flag 'L' "max-line-length", .longValued "total"] fun found operands =>
    let asked := found.filter fun (name, _) => counted.contains name
    let wants (name : String) : Bool :=
      if asked.isEmpty then ["lines", "words", "bytes"].contains name else found.has name
    finding s "wc" plainly operands fun f =>
      let rows := f.texts.map fun (name, bytes) => (countsOf wants bytes, name)
      let columns := (counted.filter wants).length
      let total := (rows.map (·.1)).foldl (fun sums row =>
        if sums.isEmpty then row
        else (sums.zip row).zipIdx.map fun ((a, b), i) =>
          if wants "max-line-length" && i + 1 = columns then max a b else a + b) []
      let total := if total.isEmpty then List.replicate columns 0 else total
      let sizes := (f.texts.filter fun (name, _) => name ≠ "-").map fun (_, bytes) => bytes.length
      let width :=
        if operands.length ≤ 1 && columns = 1 then 1
        else
          max (if operands.isEmpty || operands.contains "-" then 7 else 1)
            (Nat.toDigits 10 (sizes.foldl Nat.add 0)).length
      let row (width : Nat) (counts : List Nat) (name : List String) : String :=
        " ".intercalate (counts.map (fun n => padLeft width n.repr) ++ name) ++ "\n"
      let mode := (found.value? "total").getD "auto"
      let lines := rows.map fun (counts, name) =>
        row width counts (if operands.isEmpty then [] else [Quoting.name name])
      let showsTotal := mode = "always" || (mode = "auto" && 1 < operands.length)
      f.answer (Bytes.ofString (
        if mode = "only" then row 1 total []
        else String.join lines ++ (if showsTotal then row width total ["total"] else "")))

/-! ## Repeated lines -/

/-- Lines with the same key, one after the other. -/
def runs {α κ : Type} [DecidableEq κ] (key : α → κ) (lines : List α) : List (List α) :=
  (lines.foldl (fun (acc : List (List α)) line =>
    match acc with
    | (before :: others) :: rest =>
      if key before = key line then (line :: before :: others) :: rest else [line] :: acc
    | _ => [line] :: acc) []).reverse.map List.reverse

/-- A line without its first fields: each is blanks and what follows them. -/
def skipFields : Nat → Bytes → Bytes
  | 0, line => line
  | n + 1, line => skipFields n ((line.dropWhile isBlank).dropWhile fun b => !isBlank b)

def uniqForms : List OptionForm :=
  [.flag 'c' "count", .flag 'd' "repeated", ⟨some 'D', "D", .nothing⟩,
    ⟨none, "all-repeated", .perhaps⟩, ⟨none, "group", .perhaps⟩, .flag 'u' "unique",
    .flag 'i' "ignore-case", .valued 'f' "skip-fields", .valued 's' "skip-chars",
    .valued 'w' "check-chars", .flag 'z' "zero-terminated"]

/-- Drops repeated lines. -/
def uniq (s : Scene) : Deed :=
  reading { s with args := expandCount "f" s.args } "uniq" 1 uniqForms fun found operands =>
    let wrong := [("skip-fields", "skip"), ("skip-chars", "skip"), ("check-chars", "compare")
      ].findSome? fun (name, verb) =>
        (found.value? name).bind fun text =>
          if (count? text).isSome then none
          else
            let what := if name = "skip-fields" then "fields" else "bytes"
            some ("uniq: " ++ text ++ ": invalid number of " ++ what ++ " to " ++ verb)
    let number (name : String) : Option Nat := (found.value? name).bind count?
    let key (line : Bytes) : Bytes :=
      let rest := (skipFields ((number "skip-fields").getD 0) line).drop
        ((number "skip-chars").getD 0)
      let rest := match number "check-chars" with
        | some n => rest.take n
        | none => rest
      if found.has "ignore-case" then rest.map toUpper else rest
    let mark := lineEnd found "zero-terminated"
    let one (run : List Bytes) : List Bytes :=
      let n := run.length
      if (found.has "repeated" && n < 2) || (found.has "unique" && 1 < n) then []
      else
        (run.take 1).map fun line =>
          if found.has "count" then Bytes.ofString (padLeft 7 n.repr ++ " ") ++ line else line
    let parted (method : String) (groups : List (List Bytes)) : List Bytes :=
      let whole := [([] : Bytes)]
      match method with
      | "prepend" => groups.flatMap fun g => whole ++ g
      | "append" => groups.flatMap fun g => g ++ whole
      | "both" => if groups = [] then [] else whole ++ groups.flatMap fun g => g ++ whole
      | "separate" => whole.intercalate groups
      | _ => groups.flatten
    let answer (bytes : Bytes) : Bytes :=
      let groups := runs key (partsOf mark bytes)
      let lines :=
        match found.value? "group" with
        | some method => parted (if method = "" then "separate" else method) groups
        | none =>
          if found.has "D" || found.has "all-repeated" then
            parted ((found.value? "all-repeated").getD "none") (groups.filter fun g => 1 < g.length)
          else groups.flatMap one
      ofParts mark lines
    match wrong, operands with
    | some text, _ => complaint s text 1
    | none, [_, target] =>
      finding s "uniq" plainly (operands.take 1) fun f =>
        if f.isFine then writing s "uniq" plainly target (answer f.bytes) (f.answer [])
        else f.answer []
    | none, _ :: _ :: extra :: _ => extraOperand s "uniq" extra
    | none, operands =>
      if found.has "group" &&
        (found.has "count" || found.has "repeated" || found.has "unique" || found.has "D") then
        complaint s (hint "uniq" "--group is mutually exclusive with -c/-d/-D/-u") 1
      else if found.has "count" && (found.has "D" || found.has "all-repeated") then
        complaint s (hint "uniq"
          "printing all duplicated lines and repeat counts is meaningless") 1
      else filter s "uniq" plainly operands answer

end Scratchpad.Shell.Tools
