import Scratchpad.Shell.Awk.Program
import Scratchpad.Shell.Awk.Table
import Scratchpad.Shell.Awk.Tokens
import Scratchpad.Shell.State

/-!
# The desk of the record language

A program works at a desk: there are the record at hand with its fields, the variables and tables,
what is to be read and what was written. The record is parted into fields when one of them is asked
for, and is put together again when it is asked for after a field has changed.
-/

namespace Scratchpad.Shell.Awk

/-- What a name stands for: a value, a table, or nothing yet, in which case it says which table it is
if it turns out to be one. -/
inductive Slot
  | value (v : Value)
  | table (n : Nat)
  | vague (n : Nat)

/-- Output that was opened by a name, and what is still to be written to it, last piece first. -/
inductive Outflow
  | file (path : Files.Path)
  | command

structure Opened where
  name : Bytes
  flow : Outflow
  pending : List Bytes

/-- Input that was opened by a name: what is left of it, and the status of the command that it came
from. -/
structure Source where
  name : Bytes
  isCommand : Bool
  flow : Flow
  status : Nat

structure Desk where
  record : Option Value
  fields : Option (Array Value)
  separator : Bytes
  globals : Std.HashMap String Slot
  locals : List (String × Slot)
  tables : Std.HashMap Nat Table
  nextTable : Nat
  inside : List Nat
  out : List Bytes
  opened : List Opened
  sources : List Source
  input : Option Flow
  nextOperand : Nat
  hasRead : Bool
  seed : Value
  steps : Nat
  cells : Nat
  taken : List String
  code : Nat
  host : State

/-- Why a program does not go on with the next statement. -/
inductive Stop
  | next
  | nextFile
  | exit
  | leave
  | again
  | give (v : Value)
  | fault (text : String)
  | stuck

/-- Work at a desk. What was done before a stop stays done. -/
abbrev Work := EStateM Stop Desk

def tick : Work Unit := do
  let d ← get
  match d.steps with
  | 0 => throw .stuck
  | n + 1 => set { d with steps := n }

/-- Repeats a step as long as it says so. The fuel bounds the rounds. -/
def iterate (step : Work Bool) : Nat → Work Unit
  | 0 => throw .stuck
  | n + 1 => fun d =>
    match step d with
    | .ok true d => iterate step n d
    | .ok false d => .ok () d
    | .error e d => .error e d

/-- How many steps a program is given. -/
def stepLimit : Nat := 4000000

/-! ## Variables -/

def slot? (name : String) : Work (Option Slot) := do
  let d ← get
  return (d.locals.lookup name).or (d.globals.get? name)

def setSlot (name : String) (s : Slot) : Work Unit :=
  modify fun d =>
    if d.locals.any (·.1 = name) then
      { d with locals := d.locals.map fun (n, t) => (n, if n = name then s else t) }
    else { d with globals := d.globals.insert name s }

def getPlain (name : String) : Work Value := do
  match ← slot? name with
  | some (.value v) => return v
  | _ => return .unset

/-- The format for numbers that are not whole. -/
def numberFormat (name : String) : Work Bytes := do
  return (← getPlain name).toText (Bytes.ofString "%.6g")

def textOf (v : Value) : Work Bytes := do
  match v with
  | .number x => return showNumber (← numberFormat "CONVFMT") x
  | v => return v.toText []

def getText (name : String) : Work Bytes := do
  textOf (← getPlain name)

/-- The place in the input, as a complaint shows it. -/
def whereabouts : Work String := do
  let shown (name : String) : Work String := do return shownText (← getText name)
  return "\n\tFILENAME=\"" ++ (← shown "FILENAME") ++ "\" FNR=" ++ (← shown "FNR") ++ " NR=" ++
    (← shown "NR")

/-- A stop for a fault while the program runs, with the place in the input. -/
def failNow {α : Type} (text : String) : Work α := do
  throw (.fault ("run time error: " ++ text ++ (← whereabouts)))

/-- A stop because something got too large. -/
def outgrow {α : Type} (what : String) (most : Nat) : Work α := do
  throw (.fault ("program limit exceeded: " ++ what ++ " size=" ++ most.repr ++ (← whereabouts)))

/-! ## Fields -/

/-- How many fields a record can have. -/
def mostFields : Nat := 32767

/-- The ways in which a text is parted. -/
inductive Separator
  | blanks
  | bytes
  | byte (b : UInt8)
  | pattern (p : Pattern)

def isBlankOrEnd (b : UInt8) : Bool :=
  b = 0x20 || b = 9 || b = newline

/-- The words of a text; the fuel bounds their number. -/
def blankWords : Nat → Bytes → List Bytes
  | 0, _ => []
  | fuel + 1, text =>
    match text.dropWhile isBlankOrEnd with
    | [] => []
    | text =>
      let (word, rest) := text.span (!isBlankOrEnd ·)
      word :: blankWords fuel rest

/-- The parts of a text between matches, none of which is empty. -/
def partsBetween (p : Pattern) (text : Bytes) : List Bytes :=
  let found := (p.findAll text).filter fun (b, e) => b.passed < e.passed
  let (parts, spot) := found.foldl (fun (acc : List Bytes × Spot) (b, e) =>
    (acc.2.upTo b :: acc.1, e)) ([], .ofText text)
  (spot.rest :: parts).reverse

namespace Separator

def parts (s : Separator) (text : Bytes) : List Bytes :=
  match s with
  | .blanks => blankWords (text.length + 1) text
  | .bytes => text.map fun b => [b]
  | .byte b => if text = [] then [] else text.splitOn b
  | .pattern p => if text = [] then [] else partsBetween p text

end Separator

def patternIn (text : Bytes) : Work Pattern :=
  match patternOf text with
  | .ok p => return p
  | .error fault => failNow (Cause.pattern fault text).message

def separatorOf (text : Bytes) : Work Separator := do
  match text with
  | [] => return .bytes
  | [0x20] => return .blanks
  | [b] => return .byte b
  | text => return .pattern (← patternIn text)

/-- Is the input parted at empty lines? Then every line ends a field. -/
def inParagraphs : Work Bool := do
  return (← getText "RS") = []

def recordText : Work Bytes := do
  let d ← get
  match d.record with
  | some v => textOf v
  | none =>
    let between ← getText "OFS"
    let parts ← (d.fields.getD #[]).toList.mapM textOf
    let text := between.intercalate parts
    modify fun d => { d with record := some (.input text) }
    return text

/-- Parts the record at hand. -/
def fieldsHere : Work (Array Value) := do
  let d ← get
  match d.fields with
  | some fields => return fields
  | none =>
    let text ← recordText
    let s ← separatorOf d.separator
    let parts := s.parts text
    let fields := (parts.map Value.input).toArray
    modify fun d => { d with fields := some fields }
    return fields

def setRecord (v : Value) : Work Unit := do
  let separator ← getText "FS"
  modify fun d => { d with record := some v, fields := none, separator }

def getField (i : Nat) : Work Value := do
  if i = 0 then
    let text ← recordText
    return ((← get).record).getD (.input text)
  else return (← fieldsHere).getD (i - 1) .unset

/-- Makes the record have so many fields. -/
def resize (n : Nat) : Work Unit := do
  if mostFields < n then outgrow "maximum number of fields" mostFields
  let fields ← fieldsHere
  modify fun d => { d with
    record := none
    fields := some (fields.take n ++ Array.replicate (n - fields.size) .unset) }

def setField (i : Nat) (v : Value) : Work Unit := do
  if i = 0 then setRecord v
  else
    let fields ← fieldsHere
    if fields.size < i then resize i
    modify fun d => { d with record := none, fields := d.fields.map (·.setIfInBounds (i - 1) v) }

def getName (name : String) : Work Value := do
  if name = "NF" then return .ofNat (← fieldsHere).size
  else getPlain name

def setName (name : String) (v : Value) : Work Unit := do
  if name = "NF" then resize ((wholeOf v.toNumber).toNat) else setSlot name (.value v)

/-! ## Tables -/

def newTable : Work Nat := do
  let n := (← get).nextTable
  modify fun d => { d with nextTable := n + 1 }
  return n

/-- The table that a name stands for. -/
def tableOf (name : String) : Work Nat := do
  match ← slot? name with
  | some (.table n) => return n
  | some (.vague n) =>
    setSlot name (.table n)
    return n
  | some (.value _) => throw (.fault ("run time error: type error in use of " ++ name))
  | none =>
    let n ← newTable
    setSlot name (.table n)
    return n

def getTable (n : Nat) : Work Table := do
  return ((← get).tables.get? n).getD .empty

def setTable (n : Nat) (t : Table) : Work Unit :=
  modify fun d => { d with tables := d.tables.insert n t }

/-- Changes a table that nothing else holds meanwhile. -/
def changeTable (n : Nat) (f : Table → Table) : Work Unit :=
  modify fun d =>
    let t := (d.tables.get? n).getD .empty
    { d with tables := (d.tables.erase n).insert n (f t) }

/-- The value under a key, which is there from now on. -/
def element (n : Nat) (k : Key) : Work Value := do
  match (← getTable n).values.get? k.bytes with
  | some v =>
    changeTable n (·.touch k)
    return v
  | none =>
    changeTable n (·.insert k .unset)
    return .unset

/-- A value as a key. -/
def keyOf (v : Value) : Work Key := do
  match v with
  | .number x =>
    match x.integer?.filter fun n => n.natAbs < 2147483647 with
    | some n => return .whole n
    | none => return .text (← textOf v)
  | v => return .text (← textOf v)

/-! ## Output -/

/-- Hands over what was written to the output and to files. -/
def flush : Work Unit :=
  modify fun d =>
    let host := if d.out = [] then d.host else d.host.write 1 d.out.reverse.flatten
    let host := d.opened.foldr (fun o (host : State) =>
      match o.flow with
      | .file path => if o.pending = [] then host else host.emit (.file path) o.pending.reverse.flatten
      | .command => host) host
    { d with
      host
      out := []
      opened := d.opened.map fun o =>
        match o.flow with
        | .file _ => { o with pending := [] }
        | .command => o }

def addTo (name : Bytes) (bytes : Bytes) : Work Unit :=
  modify fun d => { d with opened := d.opened.map fun o =>
    if o.name = name then { o with pending := bytes :: o.pending } else o }

def write (bytes : Bytes) : Work Unit :=
  modify fun d => { d with out := bytes :: d.out }

/-- Writes to a file, which is made or emptied when it is named for the first time. -/
def writeFile (name : Bytes) (append : Bool) (bytes : Bytes) : Work Unit := do
  match shownText name with
  | "/dev/stdout" | "-" => write bytes
  | "/dev/stderr" => modify fun d => { d with host := d.host.write 2 bytes }
  | "/dev/null" => pure ()
  | shown =>
    let d ← get
    unless d.opened.any (·.name = name) do
      let before := if append then (d.host.files.read name).toOption.getD [] else []
      match d.host.files.write name before with
      | .ok files =>
        let path := if name.head? = some Files.Path.slash then name else
          d.host.files.cwd.flatMap (fun part => Files.Path.slash :: part) ++ Files.Path.slash :: name
        set { d with host := { d.host with files }, opened := ⟨name, .file path, []⟩ :: d.opened }
      | .error e =>
        throw (.fault ("cannot open \"" ++ shown ++ "\" for output (" ++ e.reason ++ ")"))
    addTo name bytes

/-! ## Input -/

/-- The first record of some bytes and what comes after it, if its end is among them. -/
def cutRecord? (s : Separator) (bytes : Bytes) : Option (Bytes × Bytes) :=
  match s with
  | .byte b =>
    let (record, rest) := bytes.span (· ≠ b)
    if rest = [] then none else some (record, rest.drop 1)
  | .pattern p =>
    ((p.findAll bytes).find? fun (b, e) => b.passed < e.passed).map fun (b, e) =>
      ((Spot.ofText bytes).upTo b, e.rest)
  | .blanks => none
  | .bytes =>
    let rec go : Bytes → Bytes → Option (Bytes × Bytes)
      | acc, 0x0A :: 0x0A :: rest => some (acc.reverse, rest.dropWhile (· = newline))
      | acc, b :: rest => go (b :: acc) rest
      | _, [] => none
    go [] bytes

/-- How records are parted. -/
def recordSeparator : Work Separator := do
  match ← getText "RS" with
  | [b] => return .byte b
  | [] => return .bytes
  | text => return .pattern (← patternIn text)

/-- How much of an input without end is looked at for the end of a record. -/
def lookAhead : Nat := 4096

/-- The next record of an input, and the rest; `none` at the end. -/
def nextRecord (f : Flow) : Work (Option (Bytes × Flow)) := do
  let s ← recordSeparator
  let inParagraphs ← inParagraphs
  let f := if inParagraphs then { f with first := f.first.dropWhile (· = newline) } else f
  match cutRecord? s f.first with
  | some (record, rest) => return some (record, { f with first := rest })
  | none =>
    if f.isEndless then
      let f := f.unroll (f.first.length + lookAhead)
      match cutRecord? s f.first with
      | some (record, rest) => return some (record, { f with first := rest })
      | none => throw .stuck
    else if f.first = [] then return none
    else
      let record := if inParagraphs then (f.first.reverse.dropWhile (· = newline)).reverse else f.first
      return some (record, .empty)

def addOne (name : String) : Work Unit := do
  let v ← getPlain name
  setSlot name (.value (.number (v.toNumber.add .double (.ofInt .double 1))))

/-- An argument that gives a variable a value: the name and the value. -/
def setting? (arg : Bytes) : Option (String × Value) :=
  let name := arg.takeWhile isWordByte
  match name, arg.drop name.length with
  | b :: _, 0x3D :: value =>
    if Tools.isDigit b then none
    else some (shownText name, .input (unescape (value.length + 1) value))
  | _, _ => none

/-- Gives a variable the value that an argument says. -/
def assign (name : String) (v : Value) : Work Unit := do
  let isTaken := keywords.contains name || (intrinsics.lookup name).isSome || name = "ENVIRON"
  if isTaken || (← get).taken.contains name then
    failNow ("cannot command line assign to " ++ name ++ "\n\ttype clash or keyword")
  else setName name v

/-- Opens the input that an operand names. -/
def openOperand (arg : Bytes) : Work Unit := do
  let d ← get
  let name := shownText arg
  let flow ← if name = "-" || name = "/dev/stdin" then
      set { d with host := { d.host with input := .empty } }
      pure d.host.input
    else
      match Flow.named d.host.files d.host.input name with
      | .ok flow => pure flow
      | .error .isDirectory => throw (.fault ("read error (" ++ Files.Error.isDirectory.reason ++ ")"))
      | .error e => throw (.fault ("cannot open " ++ name ++ " (" ++ e.reason ++ ")"))
  setSlot "FILENAME" (.value (.input arg))
  setSlot "FNR" (.value (.ofNat 0))
  modify fun d => { d with input := some flow, hasRead := true }

/-- Goes on to the next input. Without operands that name one it is the input of the program. -/
def nextInput : Work Bool := do
  let argv ← tableOf "ARGV"
  let count := (wholeOf (← getPlain "ARGC").toNumber).toNat
  let rec seek : Nat → Work Bool
    | 0 => return false
    | fuel + 1 => do
      let i := (← get).nextOperand
      if count ≤ i then
        if (← get).hasRead then return false
        else
          setSlot "FILENAME" (.value (.text [0x2D]))
          modify fun d => { d with
            input := some d.host.input, hasRead := true, host := { d.host with input := .empty } }
          return true
      else
        modify fun d => { d with nextOperand := i + 1 }
        let arg ← textOf (((← getTable argv).values.get? (Bytes.ofString i.repr)).getD .unset)
        if arg = [] then seek fuel
        else
          match setting? arg with
          | some (name, value) =>
            assign name value
            seek fuel
          | none =>
            openOperand arg
            return true
  seek (count + 2)

/-- The next record of all input. The fuel bounds the number of operands. -/
def mainRecord : Nat → Work (Option Bytes)
  | 0 => return none
  | fuel + 1 => do
    match (← get).input with
    | none => if ← nextInput then mainRecord fuel else return none
    | some flow =>
      match ← nextRecord flow with
      | some (record, rest) =>
        modify fun d => { d with input := some rest }
        return some record
      | none =>
        modify fun d => { d with input := none }
        if ← nextInput then mainRecord fuel else return none

def nextMainRecord : Work (Option Bytes) := do
  let count := (wholeOf (← getPlain "ARGC").toNumber).toNat
  let found ← mainRecord (2 * count + 4)
  if found.isSome then
    addOne "NR"
    addOne "FNR"
  return found

end Scratchpad.Shell.Awk
