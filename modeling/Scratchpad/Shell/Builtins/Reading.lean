import Scratchpad.Shell.Builtins.Declaring

/-!
# Commands that read

Reading lines into variables, and the options of a script from its arguments. A backslash in a line
makes the next character stand for itself, so that it parts no fields, unless the line is read as it is
written.
-/

namespace Scratchpad.Shell.Builtins

/-- The characters in front of a mark, or so many of them, with a flag on those that stand for
themselves; what is left, and whether it ended there. -/
def gathered (raw : Bool) (mark : UInt8) : Option Nat → Field → Bytes → Field × Bytes × Bool
  | some 0, acc, rest => (acc.reverse, rest, true)
  | _, acc, [] => (acc.reverse, [], false)
  | left, acc, b :: rest =>
    let char (b : UInt8) : Char := Char.ofNat b.toNat
    if b = 0x5C && !raw then
      match rest with
      | c :: rest =>
        if c = newline then gathered raw mark left acc rest
        else gathered raw mark (left.map (· - 1)) ((char c, true) :: acc) rest
      | [] => (acc.reverse, [], false)
    else if b = mark then (acc.reverse, rest, true)
    else if b = 0 then gathered raw mark left acc rest
    else gathered raw mark (left.map (· - 1)) ((char b, false) :: acc) rest

/-- Reads from a flow; nothing if that goes on for ever. -/
def takeText (raw : Bool) (mark : UInt8) (limit : Option Nat) (f : Flow) :
    Option (Field × Flow × Bool) :=
  let f := if f.isEndless then
      f.unroll (f.first.length + 2 * (limit.getD 0) + 4 * f.cycle.length)
    else f
  let (found, rest, ended) := gathered raw mark limit [] f.first
  if f.isEndless && !ended then none else some (found, { f with first := rest }, ended)

/-- Does a character part fields? -/
def parts (separators : List Char) (c : Char × Bool) : Bool :=
  !c.2 && separators.contains c.1

def isGap (separators : List Char) (c : Char × Bool) : Bool :=
  parts separators c && Fields.isSpace c.1

/-- The first field and what comes after the separators behind it. -/
def firstField (separators : List Char) (cs : Field) : Field × Field :=
  let field := cs.takeWhile (!parts separators ·)
  let rest := (cs.drop field.length).dropWhile (isGap separators)
  match rest with
  | c :: r => (field, if parts separators c then r.dropWhile (isGap separators) else rest)
  | [] => (field, [])

/-- The texts for so many variables, of which the last one gets all that is left. -/
def shares (separators : List Char) : Nat → Field → List (List Char)
  | 0, _ => []
  | 1, cs =>
    let (field, after) := firstField separators cs
    [(if after = [] then field else (cs.reverse.dropWhile (isGap separators)).reverse).chars]
  | n + 1, cs =>
    let (field, after) := firstField separators cs
    field.chars :: shares separators n after

/-- All fields of a line; the fuel bounds them. -/
def allFields (separators : List Char) : Nat → Field → List (List Char)
  | 0, _ | _, [] => []
  | fuel + 1, cs =>
    let (field, after) := firstField separators cs
    field.chars :: allFields separators fuel after

/-- Gives a variable, or a member of one, what a command has found. -/
def giveBy (who : String) (st : State) (name value : List Char) : State :=
  if !st.isRunning then st
  else
    let (base, _) := splitKey name
    if !Shell.isName base then
      if st.isRich then fails who (notAName name) 1 st
      else fails who (ByteText.shown name ++ ": bad variable name") 2 st
    else if st.isRich then
      match Script.settingIn? (name ++ ['=']) with
      | some (base, some key, _) =>
        match st.keyOf (objecting who) base key with
        | (st, some key) => st.put (objecting who) ⟨base, some key⟩ false value
        | (st, none) => st
      | _ =>
        if st.frozen.contains name then assignBy who name value st
        else st.put (objecting who) ⟨name, none⟩ false value
    else assignBy who name value st

/-- Gives a variable what was read. -/
def give (st : State) (name value : List Char) : State :=
  giveBy "read" st name value

/-- The input that a descriptor stands for. -/
def inputOf? (st : State) (fd : Nat) : Option Flow :=
  if fd = 0 then some st.input else st.shareInput.inputs.lookup fd

/-- Puts back what is left of an input. -/
def leaveInput (st : State) (fd : Nat) (flow : Flow) : State :=
  if fd = 0 then { st with input := flow }
  else
    { st with
      inputs := (fd, flow) :: st.inputs.filter (·.1 ≠ fd)
      input := if st.inputFrom = some fd then flow else st.input }

/-- Reads a line into variables. -/
def readPlain : Builtin := fun args st =>
  reading "read" false "p:r" "" args st fun found names =>
    if names = [] then fails "read" "arg count" 2 st
    else
      match takeText (asked found 'r') newline none st.input with
      | none => { st with fate := .stuck [] }
      | some (text, input, ended) =>
        let st := { st with input, status := if ended then 0 else 1 }
        let separators := st.separators
        let text := text.dropWhile (isGap separators)
        (names.zip (shares separators names.length text)).foldl (fun (st : State) (name, value) =>
          if st.status ≤ 1 then give st name value else st) st

def readUsage : String :=
  "read [-ers] [-a array] [-d delim] [-i text] [-n nchars] [-N nchars] [-p prompt] [-t timeout] " ++
    "[-u fd] [name ...]"

/-- The same in the rich dialect: with other marks, so many characters, or into a list. -/
def readRich : Builtin := fun args st =>
  reading "read" false "ersa:d:i:n:N:p:t:u:" readUsage args st fun found names =>
    let value? (c : Char) : Option (List Char) := found.reverse.lookup c
    let number? (c : Char) : Option Nat := (value? c).bind count?
    let fd := (number? 'u').getD 0
    let exact := number? 'N'
    let limit := exact <|> number? 'n'
    let mark : UInt8 := match value? 'd' with
      | some (c :: _) => UInt8.ofNat c.toNat
      | some [] => 0
      | none => newline
    match inputOf? st fd with
    | none =>
      fails "read" (fd.repr ++ ": invalid file descriptor: Bad file descriptor") 1 st
    | some flow =>
      match takeText (asked found 'r') mark limit flow with
      | none => { st with fate := .stuck [] }
      | some (text, rest, ended) =>
        let st := (leaveInput st fd rest).withStatus (if ended then 0 else 1)
        let separators := st.separators
        let body := text.dropWhile (isGap separators)
        match value? 'a' with
        | some name =>
          st.setList (st.aim name) (.ofList (allFields separators (body.length + 1) body))
        | none =>
          match exact, names with
          | _, [] => give st "REPLY".toList text.chars
          | some _, name :: rest =>
            rest.foldl (fun st name => give st name []) (give st name text.chars)
          | none, names =>
            (names.zip (shares separators names.length body)).foldl
              (fun (st : State) (name, value) => give st name value) st

def read : Builtin := fun args st =>
  if st.isRich then readRich args st else readPlain args st

/-- Goes on with a line from one column to another, with stops as far as they go. -/
def spaceTo : Nat → Nat → List Char
  | column, target =>
    if target ≤ column then []
    else if column / 8 < target / 8 then
      '\t' :: spaceTo (column + 8 - column % 8) target
    else List.replicate (target - column) ' '
termination_by column target => target - column
decreasing_by omega

/-- Choices with their numbers, in as many columns as there is room for. -/
def menu (st : State) (items : List (List Char)) : List Char :=
  let room := ((st.get? "COLUMNS".toList).bind Tools.decimal?).getD 80
  let digits (n : Nat) : Nat := (Nat.toDigits 10 n).length
  let count := items.length
  let width := items.foldl (fun n item => max n item.length) 0 + digits count + 4
  let columns := max 1 (room / width)
  let rows := (count + columns - 1) / columns
  let columns := (count + rows - 1) / rows
  let rows := if rows = 1 then columns else rows
  let row (r : Nat) : List Char :=
    let cells := (List.range ((count - r + rows - 1) / rows)).map fun k => r + k * rows
    let shown := cells.zipIdx.map fun (i, k) =>
      let numbered := (Tools.padLeft (if k = 0 then digits rows else digits count) (i + 1).repr).toList ++
        [')', ' '] ++ (items[i]?).getD []
      let start := k * width
      if k + 1 < cells.length then numbered ++ spaceTo (start + numbered.length) (start + width) else numbered
    shown.flatten ++ ['\n']
  ((List.range rows).map row).flatten

/-- A line that is put into a list, and the script that runs before that, if there is one. -/
structure Filling where
  place : Calculation.Place
  value : List Char
  script : List Char

def mapfileUsage : String :=
  " [-d delim] [-n count] [-O origin] [-s count] [-t] [-u fd] [-C callback] [-c quantum] [array]"

/-- Reads the lines for a list, which is emptied unless they go behind a place in it. -/
def fillings (who : String) (args : List (List Char)) (st : State) : State × List Filling :=
  match letters st.isRich "d:n:O:s:tu:C:c:".toList args [] with
  | .error text => (misused who text (who ++ mapfileUsage) st, [])
  | .ok (found, rest) =>
    let value? (c : Char) : Option (List Char) := found.reverse.lookup c
    let isBad (c : Char) : Bool := (value? c).any fun v => (count? v).isNone
    let number (c : Char) : Nat := ((value? c).bind count?).getD 0
    let refused (c : Char) (said : String) : State × List Filling :=
      (fails who (ByteText.shown ((value? c).getD []) ++ said) 1 st, [])
    let fd := number 'u'
    let name := st.aim (rest.headD "MAPFILE".toList)
    if isBad 'n' then refused 'n' ": invalid line count"
    else if isBad 's' then refused 's' ": invalid line count"
    else if isBad 'O' then refused 'O' ": invalid array origin"
    else if isBad 'c' || (value? 'c').any (fun v => count? v = some 0) then refused 'c' ": invalid callback quantum"
    else if isBad 'u' then refused 'u' ": invalid file descriptor specification"
    else if !Shell.isName name then (fails who (notAName name) 1 st, [])
    else if st.frozen.contains name then
      ((st.complain (ByteText.shown name ++ ": readonly variable")).withStatus 1, [])
    else if st.isKeyed name then (fails who (ByteText.shown name ++ ": not an indexed array") 1 st, [])
    else
      match inputOf? st fd with
      | none => (fails who (fd.repr ++ ": invalid file descriptor: Bad file descriptor") 1 st, [])
      | some flow =>
        if flow.isEndless then ({ st with fate := .stuck [] }, [])
        else
          let mark : UInt8 := match value? 'd' with
            | some (c :: _) => UInt8.ofNat c.toNat
            | some [] => 0
            | none => newline
          let parted := partsOf mark flow.first
          let last := parted.length - 1
          let ended := flow.first.getLast? = some mark
          let lines := parted.zipIdx.map fun (line, i) =>
            if asked found 't' || (i = last && !ended) then line else line ++ [mark]
          let left := lines.drop (number 's')
          let left := if number 'n' = 0 then left else left.take (number 'n')
          let values := left.map fun line => ByteText.ofBytes (line.filter (· ≠ 0))
          let unread : Flow :=
            if number 'n' = 0 then .empty
            else .ofBytes (ofParts mark (parted.drop (number 's' + number 'n')))
          let st := (leaveInput st fd unread).withStatus 0
          let st := if asked found 'O' then st else st.setList name (Listing.empty false)
          let quantum := max 1 (((value? 'c').bind count?).getD 5000)
          (st, values.zipIdx.map fun (v, i) =>
            let key := Nat.toDigits 10 (number 'O' + i)
            let script := match value? 'C' with
              | some callback =>
                if (i + 1) % quantum = 0 then callback ++ ' ' :: key ++ ' ' :: richlyQuoted v else []
              | none => []
            ⟨⟨name, some key⟩, v, script⟩)

/-! ## Options of scripts -/

/-- What is said of options that are wrong: one that is unknown, or one whose value is missing. -/
def optionComplaint (st : State) (missing : Bool) (c : Char) : List Char :=
  let text : String :=
    match st.isRich, missing with
    | false, false => "Illegal option -" ++ String.singleton c
    | false, true => "No arg for -" ++ String.singleton c ++ " option"
    | true, false => ": illegal option -- " ++ String.singleton c
    | true, true => ": option requires an argument -- " ++ String.singleton c
  (if st.isRich then st.name else []) ++ text.toList ++ ['\n']

/-- Takes the next option from some words: `known` lists the letters, those that take a value with a
colon behind. The position of the next word is kept in a variable, the one in the word apart. -/
def nextOption (known name : List Char) (words : List (List Char)) (st : State) : State :=
  let silent := known.head? = some ':'
  let index := ((st.get? "OPTIND".toList).bind Tools.decimal?).getD 1
  let index := if index = 0 ∨ words.length + 1 < index then 1 else index
  let offset := if st.optionAt.1 = index then st.optionAt.2 else 0
  let inside := if index ≤ 1 ∨ offset = 0 then []
    else ((words[index - 2]?).getD []).drop offset
  let finish (st : State) (letter : Char) (index offset status : Nat) : State :=
    let st := st.set "OPTIND".toList (Nat.toDigits 10 index)
    assignBy "getopts" name [letter] { st with optionAt := (index, offset), status }
  let take (st : State) (c : Char) (after : List Char) (index length : Nat) : State :=
    let here := if after = [] then 0 else length - after.length
    let bad (missing : Bool) (index here : Nat) : State :=
      if silent then finish (st.set "OPTARG".toList [c]) (if missing then ':' else '?') index here 0
      else
        let st := st.unset "OPTARG".toList
        let st := if st.isRich && st.get? "OPTERR".toList = some ['0'] then st
          else st.write 2 (ByteText.toBytes (optionComplaint st missing c))
        finish st '?' index here 0
    match (known.dropWhile (· = ':')).dropWhile (· ≠ c) with
    | [] => bad false index here
    | _ :: ':' :: _ =>
      if after ≠ [] then finish (st.set "OPTARG".toList after) c index 0 0
      else
        match words[index - 1]? with
        | some value => finish (st.set "OPTARG".toList value) c (index + 1) 0 0
        | none => bad true index 0
    | _ :: _ =>
      finish (if st.isRich then st.unset "OPTARG".toList else st.set "OPTARG".toList []) c index here 0
  match inside with
  | c :: after => take st c after index ((words[index - 2]?).getD []).length
  | [] =>
    match words[index - 1]? with
    | some ['-', '-'] => finish st '?' (index + 1) 0 1
    | some ('-' :: c :: after) => take st c after (index + 1) (after.length + 2)
    | _ => finish st '?' index 0 1

def getopts : Builtin := fun args st =>
  match args with
  | known :: name :: words =>
    if !Shell.isName name then
      if st.isRich then fails "getopts" (notAName name) 1 st
      else fails "getopts" (ByteText.shown name ++ ": bad variable name") 2 st
    else nextOption known name (if words.isEmpty then st.args else words) st
  | _ =>
    if st.isRich then misused "getopts" "" "getopts optstring name [arg ...]" st
    else fails "getopts" "Usage: getopts optstring var [arg...]" 2 st

end Scratchpad.Shell.Builtins
