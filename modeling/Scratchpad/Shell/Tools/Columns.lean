import Scratchpad.Shell.Pattern

/-!
# Columns

The tools that take lines apart, break them, number them, and put them side by side.
-/

namespace Scratchpad.Shell.Tools

open Deed (complaint ofWrites told waiting)

/-! ## Positions -/

/-- Why a list of positions is not one. -/
inductive RangeFault
  | zero
  | text (part : String)
  | endless
  | decreasing
  | nested

def RangeFault.message (fields : Bool) : RangeFault → String
  | .zero =>
    (if fields then "fields" else "byte/character positions") ++ " are numbered from 1"
  | .text part =>
    "invalid " ++ (if fields then "field value " else "byte/character position ") ++
      Quoting.value part
  | .endless => "invalid range with no endpoint: -"
  | .decreasing => "invalid decreasing range"
  | .nested => "invalid " ++ (if fields then "field" else "byte or character") ++ " range"

/-- A range of positions, the last of which may be missing. -/
def rangeOf (part : String) : Except RangeFault (Nat × Option Nat) :=
  let cs := part.toList
  let low := cs.takeWhile (· ≠ '-')
  match low, cs.drop low.length with
  | low, [] =>
    match (if low = [] then some 0 else decimal? low) with
    | some 0 => .error .zero
    | some n => .ok (n, some n)
    | none => .error (.text part)
  | low, _ :: high =>
    let number (cs : List Char) (missing : Nat) : Option Nat :=
      if cs = [] then some missing else decimal? cs
    match number low 1, number high 0 with
    | some 0, _ => .error .zero
    | some n, some m =>
      if low = [] ∧ high = [] then .error .endless
      else if high = [] then .ok (n, none)
      else if m < n then .error .decreasing
      else .ok (n, some m)
    | some _, none => .error (if high.contains '-' then .nested else .text part)
    | none, _ => .error (.text part)

/-- The ranges in a list of positions. -/
def rangesOf (text : String) : Except RangeFault (List (Nat × Option Nat)) :=
  (text.splitOn ",").mapM rangeOf

def inRanges (ranges : List (Nat × Option Nat)) (i : Nat) : Bool :=
  ranges.any fun (low, high) => low ≤ i && high.all (i ≤ ·)

/-- The members of a list whose positions are in some range, in stretches: a stretch ends where a
range does, and ranges that overlap are one. -/
def pickStretches {α : Type} (ranges : List (Nat × Option Nat)) (complement : Bool)
    (xs : List α) : List (List α) :=
  let starts (i : Nat) : Bool :=
    if complement then inRanges ranges (i - 1)
    else
      ranges.any (fun (low, _) => low = i) &&
        !ranges.any fun (low, high) => low < i && high.all (i ≤ ·)
  ((xs.zipIdx 1).foldl (fun (acc : List (List α)) (x, i) =>
    if inRanges ranges i = complement then acc
    else
      match acc with
      | part :: rest => if starts i then [x] :: acc else (x :: part) :: rest
      | [] => [[x]]) []).reverse.map List.reverse

def pick {α : Type} (ranges : List (Nat × Option Nat)) (complement : Bool) (xs : List α) : List α :=
  (xs.zipIdx 1).filterMap fun (x, i) => if inRanges ranges i = complement then none else some x

/-- Keeps some bytes or fields of every line. -/
def cut (s : Scene) : Deed :=
  reading s "cut" 1 [.valued 'b' "bytes", .valued 'c' "characters", .valued 'f' "fields",
    .valued 'd' "delimiter", .flag 's' "only-delimited", .flag 'n' "n", .longFlag "complement",
    .longValued "output-delimiter", .flag 'z' "zero-terminated"] fun found operands =>
    let lists := found.filter fun (name, _) => ["bytes", "characters", "fields"].contains name
    match lists with
    | [] => complaint s (hint "cut" "you must specify a list of bytes, characters, or fields") 1
    | _ :: _ :: _ => complaint s (hint "cut" "only one list may be specified") 1
    | [(kind, text)] =>
      let fields := kind = "fields"
      let mark := lineEnd found "zero-terminated"
      let complement := found.has "complement"
      let tab := Bytes.ofString ((found.value? "delimiter").getD "\t")
      let gap := (found.value? "output-delimiter").map Bytes.ofString
      if 1 < tab.length then complaint s (hint "cut" "the delimiter must be a single character") 1
      else if !fields && found.has "delimiter" then
        complaint s (hint "cut"
          "an input delimiter may be specified only when operating on fields") 1
      else if !fields && found.has "only-delimited" then
        complaint s (hint "cut" ("suppressing non-delimited lines makes sense\n" ++
          "\tonly when operating on fields")) 1
      else
        match rangesOf text with
        | .error f => complaint s (hint "cut" (f.message fields)) 1
        | .ok ranges =>
          let d := tab.headD 0
          let one (line : Bytes) : Option Bytes :=
            if !fields then
              match gap with
              | none => some (pick ranges complement line)
              | some gap => some (gap.intercalate (pickStretches ranges complement line))
            else if line.contains d then
              some ((gap.getD [d]).intercalate (pick ranges complement (line.splitOn d)))
            else if found.has "only-delimited" then none
            else some line
          filterLines s "cut" plainly operands fun bytes =>
            ofParts mark ((partsOf mark bytes).filterMap one)

/-! ## Numbers in front -/

/-- Which lines of a section are numbered. -/
inductive NumberStyle
  | all
  | full
  | none
  | like (p : Pattern)

def NumberStyle.ofString (part text : String) : Except String NumberStyle :=
  match text.toList with
  | ['a'] => .ok .all
  | ['t'] => .ok .full
  | ['n'] => .ok .none
  | 'p' :: cs =>
    match Pattern.ofRegex .lenientBasic (Bytes.ofString (String.ofList cs)) with
    | .ok p => .ok (.like p)
    | .error f => .error ("nl: " ++ f.message)
  | _ => .error (hint "nl" ("invalid " ++ part ++ " numbering style: " ++ Quoting.value text))

/-- How lines are numbered: the styles of the three sections of a page, the line that begins one, the
first number and the steps, the layout, and how many empty lines count as one. -/
structure Numbering where
  header : NumberStyle
  body : NumberStyle
  footer : NumberStyle
  delimiter : Bytes
  start : Int
  step : Int
  renumbers : Bool
  width : Nat
  format : String
  separator : Bytes
  joined : Nat

/-- The number of a line in its layout. -/
def Numbering.label (o : Numbering) (n : Int) : Bytes :=
  let text := toString n
  Bytes.ofString (
    match o.format with
    | "ln" => text ++ String.ofList (List.replicate (o.width - text.length) ' ')
    | "rz" =>
      if n < 0 then "-" ++ padded 10 (o.width - 1) n.natAbs else padded 10 o.width n.natAbs
    | _ => padLeft o.width text) ++ o.separator

/-- What numbering has come to: the lines so far, reversed, the next number, the style in force, and
how many empty lines went before. -/
structure Numbered where
  lines : List Bytes
  next : Int
  style : NumberStyle
  blanks : Nat

def Numbering.take (o : Numbering) (p : Numbered) (line : Bytes) : Numbered :=
  let sections := [(3, o.header), (2, o.body), (1, o.footer)]
  let section? := sections.find? fun ((n : Nat), _) =>
    o.delimiter ≠ [] && line = (List.replicate n o.delimiter).flatten
  match section? with
  | some (_, style) =>
    { p with lines := [] :: p.lines, style, next := if o.renumbers then o.start else p.next }
  | none =>
    let blanks := if line = [] then p.blanks + 1 else 0
    let counts := match p.style with
      | .all => line ≠ [] || blanks = o.joined
      | .full => line ≠ []
      | .none => false
      | .like pattern => pattern.isIn line
    if counts then
      { p with lines := (o.label p.next ++ line) :: p.lines, next := p.next + o.step, blanks := 0 }
    else
      let gap := List.replicate (o.width + o.separator.length) 0x20
      { p with lines := (gap ++ line) :: p.lines, blanks }

def nlForms : List OptionForm :=
  [.valued 'b' "body-numbering", .valued 'h' "header-numbering", .valued 'f' "footer-numbering",
    .valued 'd' "section-delimiter", .valued 'v' "starting-line-number",
    .valued 'i' "line-increment", .valued 'l' "join-blank-lines", .valued 'n' "number-format",
    .valued 's' "number-separator", .valued 'w' "number-width", .flag 'p' "no-renumber"]

/-- The numbering that options ask for. -/
def Numbering.ofOptions (found : Options) : Except String Numbering := do
  let style (name part : String) (usual : NumberStyle) : Except String NumberStyle :=
    match found.value? name with
    | some text => NumberStyle.ofString part text
    | none => .ok usual
  let whole (name what : String) (usual least : Int) : Except String Int :=
    match found.value? name with
    | none => .ok usual
    | some text =>
      match integer? text with
      | some n =>
        if n < least then .error ("nl: " ++ what ++ ": " ++ Quoting.value text ++
          ": Numerical result out of range")
        else .ok n
      | none => .error ("nl: " ++ what ++ ": " ++ Quoting.value text)
  let header ← style "header-numbering" "header" .none
  let body ← style "body-numbering" "body" .full
  let footer ← style "footer-numbering" "footer" .none
  let start ← whole "starting-line-number" "invalid starting line number" 1 (-9223372036854775808)
  let step ← whole "line-increment" "invalid line number increment" 1 (-9223372036854775808)
  let joined ← whole "join-blank-lines" "invalid line number of blank lines" 1 1
  let width ← whole "number-width" "invalid line number field width" 6 1
  let format := (found.value? "number-format").getD "rn"
  if ! ["ln", "rn", "rz"].contains format then
    throw (hint "nl" ("invalid line numbering format: " ++ Quoting.value format))
  let marks := Bytes.ofString ((found.value? "section-delimiter").getD "\\:")
  return {
    header, body, footer, start, step, format
    delimiter := if marks.length = 1 then marks ++ [0x3A] else marks
    renumbers := !found.has "no-renumber"
    width := width.toNat
    separator := Bytes.ofString ((found.value? "number-separator").getD "\t")
    joined := joined.toNat }

/-- Numbers lines; empty ones only if asked. -/
def nl (s : Scene) : Deed :=
  reading s "nl" 1 nlForms fun found operands =>
    match Numbering.ofOptions found with
    | .error text => complaint s text 1
    | .ok o =>
      filter s "nl" plainly operands fun bytes =>
        let p := (linesOf bytes).foldl o.take ⟨[], o.start, o.body, 0⟩
        ofLines p.lines.reverse

/-! ## Long lines -/

/-- Where the next byte goes: a tab goes on to a multiple of eight. -/
def columnAfter (bytewise : Bool) (column : Nat) (b : UInt8) : Nat :=
  if bytewise then column + 1
  else if b = 8 then column - 1
  else if b = 13 then 0
  else if b = 9 then column + 8 - column % 8
  else column + 1

/-- Breaks a line before it is too wide, after a blank if asked and if there is one. `row` is the
part since the last break, reversed; the fuel bounds the breaks. -/
def breakLine (bytewise atBlanks : Bool) (width : Nat) : Nat → Bytes → Nat → Bytes → Bytes
  | 0, row, _, rest => row.reverse ++ rest
  | _, row, _, [] => row.reverse
  | fuel + 1, row, column, b :: rest =>
    let after := columnAfter bytewise column b
    if b = newline then row.reverse ++ b :: rest
    else if after ≤ width || row = [] then breakLine bytewise atBlanks width fuel (b :: row) after rest
    else
      let tail := row.takeWhile fun c => !isBlank c
      if atBlanks && tail.length < row.length then
        let kept := row.drop tail.length
        kept.reverse ++ newline ::
          breakLine bytewise atBlanks width fuel []
            0 (tail.reverse ++ b :: rest)
      else
        row.reverse ++ newline :: breakLine bytewise atBlanks width fuel [b]
          (columnAfter bytewise 0 b) rest

/-- Breaks lines that are too long. -/
def fold (s : Scene) : Deed :=
  reading { s with args := expandCount "w" s.args } "fold" 1 [.flag 'b' "bytes", .flag 's' "spaces",
    .valued 'w' "width"] fun found operands =>
    let text := (found.value? "width").getD "80"
    match count? text with
    | none => complaint s ("fold: invalid number of columns: " ++ Quoting.value text) 1
    | some 0 =>
      complaint s ("fold: invalid number of columns: " ++ Quoting.value text ++
        ": Numerical result out of range") 1
    | some width =>
      filterLines s "fold" plainly operands fun bytes =>
        (linesWithEnds bytes).flatMap fun line =>
          breakLine (found.has "bytes") (found.has "spaces") width (2 * line.length + 2) [] 0 line

/-! ## Tabs -/

/-- Where tabs stop: at listed columns, and then at every multiple of some number, counted from
nought or from the last listed one. -/
structure TabStops where
  listed : List Nat
  every : Option Nat
  fromLast : Bool

namespace TabStops

def ofString (text : String) : Except String TabStops := do
  let words := (text.toList.splitBy fun a b => isGap a = isGap b).filter fun w => !w.any isGap
  let read (stops : TabStops) (word : List Char) : Except String TabStops := do
    match word with
    | '/' :: cs => do
      let n ← number cs
      return { stops with every := some n }
    | '+' :: cs => do
      let n ← number cs
      return { stops with every := some n, fromLast := true }
    | cs => do
      let n ← number cs
      if n = 0 then throw "tab size cannot be 0"
      if (stops.listed.getLast?).any (n ≤ ·) then throw "tab sizes must be ascending"
      return { stops with listed := stops.listed ++ [n] }
  let stops ← words.foldlM read ⟨[], none, false⟩
  return match stops with
  | ⟨[], none, _⟩ => ⟨[], some 8, false⟩
  | ⟨[n], none, _⟩ => ⟨[], some n, false⟩
  | stops => stops
where
  isGap (c : Char) : Bool := c = ',' || c = ' ' || c = '\t'
  number (cs : List Char) : Except String Nat :=
    match decimal? cs with
    | some n => .ok n
    | none => .error ("tab size contains invalid character(s): " ++ Quoting.value (String.ofList
        (cs.dropWhile Char.isDigit)))

/-- The first stop after a column, if there is one. -/
def next? (t : TabStops) (column : Nat) : Option Nat :=
  match t.listed.find? (column < ·) with
  | some n => some n
  | none =>
    match t.every with
    | some n =>
      if n = 0 then none
      else
        let base := if t.fromLast then t.listed.getLast?.getD 0 else 0
        some (base + ((column - base) / n + 1) * n)
    | none => none

end TabStops

/-- Turns the tabs of a line into blanks; with `initial` only those in front. -/
def expandLine (t : TabStops) (initial : Bool) (line : Bytes) : Bytes :=
  (line.foldl (fun (acc : Bytes × Nat × Bool) b =>
    let (out, column, converts) := acc
    let converts := converts && (!initial || isBlank b)
    if b = newline then (b :: out, 0, true)
    else if b = 9 && converts then
      let stop := (t.next? column).getD (column + 1)
      (List.replicate (stop - column) 0x20 ++ out, stop, converts)
    else if b = 8 then (b :: out, column - 1, converts)
    else (b :: out, column + 1, converts)) ([], 0, true)).1.reverse

/-- Turns tabs into blanks. -/
def expand (s : Scene) : Deed :=
  reading { s with args := expandCount "t" s.args } "expand" 1 [.flag 'i' "initial",
    .valued 't' "tabs"] fun found operands =>
    match TabStops.ofString (",".intercalate (found.all "tabs")) with
    | .error text => complaint s ("expand: " ++ text) 1
    | .ok t =>
      filterLines s "expand" plainly operands fun bytes =>
        (linesWithEnds bytes).flatMap (expandLine t (found.has "initial"))

/-- What a line has come to while blanks are turned into tabs: the output and the blanks that are
pending, both reversed, where the next byte goes, whether blanks still count, whether the first
pending blank was the only one in front of a stop, and whether the byte before was a blank. -/
structure Unexpanding where
  out : Bytes
  pending : Bytes
  column : Nat
  converts : Bool
  oneBefore : Bool
  wasBlank : Bool

namespace Unexpanding

/-- Writes what is pending and a byte after it. -/
def put (u : Unexpanding) (b : UInt8) : Unexpanding :=
  let pending := if 1 < u.pending.length && u.oneBefore then u.pending.dropLast ++ [9] else u.pending
  { u with
    out := b :: (pending ++ u.out)
    pending := []
    oneBefore := u.oneBefore && u.pending = []
    wasBlank := isBlank b }

/-- Writes a tab in place of what is pending, but for a lone blank in front of the last stop. -/
def putTab (u : Unexpanding) : Unexpanding :=
  put { u with pending := if u.oneBefore then [9] else [] } 9

def step (t : TabStops) (all : Bool) (u : Unexpanding) (b : UInt8) : Unexpanding :=
  if !u.converts then { u with out := b :: u.out }
  else if isBlank b then
    match t.next? u.column with
    | none => { u.put b with converts := false }
    | some stop =>
      let column := if b = 9 then stop else u.column + 1
      let u := { u with column }
      if b = 9 || (u.wasBlank && column = stop) then
        putTab (if u.pending = [] then { u with oneBefore := false } else u)
      else
        { u with
          pending := b :: u.pending
          oneBefore := u.oneBefore || column = stop
          wasBlank := true }
  else
    let column := if b = 8 then u.column - 1 else u.column + 1
    { u.put b with column, converts := all }

end Unexpanding

/-- Turns blanks into tabs, those in front of lines or all. -/
def unexpand (s : Scene) : Deed :=
  reading s "unexpand" 1 [.flag 'a' "all", .longFlag "first-only", .valued 't' "tabs"]
    fun found operands =>
    match TabStops.ofString (",".intercalate (found.all "tabs")) with
    | .error text => complaint s ("unexpand: " ++ text) 1
    | .ok t =>
      let all := (found.has "all" || found.has "tabs") && !found.has "first-only"
      filterLines s "unexpand" plainly operands fun bytes =>
        (linesWithEnds bytes).flatMap fun line =>
          let u := line.foldl (Unexpanding.step t all) ⟨[], [], 0, true, false, true⟩
          (u.pending ++ u.out).reverse

/-! ## Side by side -/

/-- The separators in a list, of which some are empty. -/
def separatorsOf : Bytes → List Bytes
  | [] => []
  | 0x5C :: b :: r =>
    (match Char.ofNat b.toNat with
      | '0' => []
      | 'n' => [10]
      | 't' => [9]
      | 'b' => [8]
      | 'f' => [12]
      | 'r' => [13]
      | 'v' => [11]
      | _ => [b]) :: separatorsOf r
  | b :: r => [b] :: separatorsOf r

/-- Puts separators between members, one after the other and then again. -/
def weave (separators : List Bytes) (members : List Bytes) : Bytes :=
  let n := separators.length
  (members.zipIdx.map fun (m, i) =>
    if i = 0 then m else (if n = 0 then [] else separators.getD ((i - 1) % n) []) ++ m).flatten

/-- Deals lines out to files that take one each in turn; `n` of the files read the same lines. -/
def deal (n i : Nat) (lines : List Bytes) : List Bytes :=
  lines.zipIdx.filterMap fun (line, k) => if k % n = i then some line else none

/-- Joins the lines of files side by side, or those of each file. -/
def paste (s : Scene) : Deed :=
  reading s "paste" 1 [.flag 's' "serial", .valued 'd' "delimiters", .flag 'z' "zero-terminated"]
    fun found operands =>
    let mark := lineEnd found "zero-terminated"
    let given := Bytes.ofString ((found.value? "delimiters").getD "\t")
    let separators := separatorsOf given
    let names := if operands.isEmpty then ["-"] else operands
    if (given.reverse.takeWhile (· = 0x5C)).length % 2 = 1 then
      complaint s ("paste: delimiter list ends with an unescaped backslash: " ++
        String.ofList (Text.Utf8.lossy given)) 1
    else if found.has "serial" then
      finding s "paste" plainly names fun f =>
        f.answer (f.texts.flatMap fun (_, bytes) => weave separators (partsOf mark bytes) ++ [mark])
    else
      finding s "paste" plainly names fun f =>
        if !f.isFine then { f.answer [] with writes := f.errors.take 1 }
        else
          let inputs := names.countP (· = "-")
          let shared := partsOf mark (((f.texts.filter fun (name, _) => name = "-").map (·.2)).flatten)
          let columns := (f.texts.foldl (fun (acc : List (List Bytes) × Nat) (name, bytes) =>
            if name = "-" then (deal inputs acc.2 shared :: acc.1, acc.2 + 1)
            else (partsOf mark bytes :: acc.1, acc.2)) ([], 0)).1.reverse
          let height := (columns.map List.length).foldl max 0
          let rows := (List.range height).map fun i =>
            weave separators (columns.map fun column => column.getD i [])
          f.answer (ofParts mark rows)

/-! ## Backwards -/

/-- Reverses every line. -/
def rev (s : Scene) : Deed :=
  let blame : Blame := fun name e => "cannot open " ++ name ++ ": " ++ e.reason
  reading s "rev" 1 [.flag '0' "zero"] fun found operands =>
    let mark := lineEnd found "zero"
    filterLines s "rev" blame operands fun bytes =>
      (partsWithEnds mark bytes).flatMap fun line =>
        if line.getLast? = some mark then line.dropLast.reverse ++ [mark] else line.reverse

/-- How long the separator is that stands at the head of some bytes, if one does; the byte before
them may matter. -/
abbrev Separator := Option UInt8 → Bytes → Option Nat

def Separator.ofBytes (mark : Bytes) : Separator := fun _ bytes =>
  if mark.isPrefixOf bytes then some mark.length else none

def Separator.ofPattern (p : Pattern) : Separator := fun before bytes =>
  let spot : Spot := { passed := if before.isSome then 1 else 0, before := before.toList, rest := bytes, groups := [] }
  match p.farthest spot with
  | some e => if e.rest.length < bytes.length then some (bytes.length - e.rest.length) else none
  | none => none

/-- The parts of a text, of which the bytes that are left are given from the last to the first. A
separator begins or ends a part. `after` are the bytes up to the part found last, and `held` is the
separator that ends them. -/
def partsBackwards (begins : Bool) (separator : Separator) :
    Bytes → Bytes → Bytes → List Bytes → List Bytes
  | [], after, held, done => ((after ++ held) :: done).reverse
  | b :: r, after, held, done =>
    match separator r.head? (b :: after) with
    | none => partsBackwards begins separator r (b :: after) held done
    | some n =>
      if begins then partsBackwards begins separator r [] [] ((b :: after) :: done)
      else
        partsBackwards begins separator r [] ((b :: after).take n)
          (((b :: after).drop n ++ held) :: done)

/-- Reverses the order of the parts, which a separator ends, or begins if asked. -/
def tac (s : Scene) : Deed :=
  let blame : Blame := fun name e =>
    if e = .isDirectory then Quoting.name name ++ ": read error: " ++ e.reason
    else "failed to open " ++ Quoting.always name ++ " for reading: " ++ e.reason
  reading s "tac" 1 [.flag 'b' "before", .flag 'r' "regex", .valued 's' "separator"]
    fun found operands =>
    let mark := Bytes.ofString ((found.value? "separator").getD "\n")
    let separator := if found.has "regex" then (Pattern.ofRegex .lenientBasic mark).map Separator.ofPattern
      else .ok (Separator.ofBytes (if mark = [] then [0] else mark))
    match separator with
    | .error f => complaint s ("tac: " ++ f.message) 1
    | .ok separator =>
      finding s "tac" blame operands fun f =>
        f.answer (f.texts.flatMap fun (_, bytes) =>
          (partsBackwards (found.has "before") separator bytes.reverse [] [] []).flatten)

end Scratchpad.Shell.Tools
