import Scratchpad.Shell.Awk.Desk
import Scratchpad.Shell.Awk.Functions

/-!
# Running programs of the record language

An expression gives a value and a statement none, and both work at the desk. The fuel of either
bounds how deeply it is nested; loops are bounded by the steps that the program is given. Other
programs are run by a shell, which works on the state that the program itself was started in.
-/

namespace Scratchpad.Shell.Awk

/-- A program, and the shell that it runs others with: its name, its input and outputs are those of a
state, and its script is a text. -/
structure Manner where
  program : Program
  shell : String → State → List Char → State

/-! ## Other programs -/

/-- Takes a state back from a shell. -/
def takeBack (host : State) : Work Unit := do
  modify fun d => { d with host }
  match host.fate with
  | .stuck _ => throw .stuck
  | _ => pure ()

/-- A state as a shell leaves it, with its status; a signal that ended it is shown by one above all
others. -/
def survived (host : State) : State × Nat :=
  match host.fate with
  | .signalled n => ({ host with fate := .running }, 256 + n)
  | _ => (host, host.status)

/-- Lets a shell run a script on the input that the program has. -/
def runScript (m : Manner) (name : String) (script : Bytes) : Work Nat := do
  flush
  let (host, status) := survived (m.shell name (← get).host (ByteText.ofBytes script))
  takeBack host
  return status

/-- Lets a shell run a script on some input. -/
def runOn (m : Manner) (script input : Bytes) : Work Nat := do
  let d ← get
  let (host, status) :=
    survived (m.shell "/bin/sh" { d.host with input := .ofBytes input } (ByteText.ofBytes script))
  takeBack { host with input := d.host.input }
  return status

/-- What a script writes, and its status. -/
def outputOf (m : Manner) (script : Bytes) : Work (Bytes × Nat) := do
  flush
  let d ← get
  let pipe := Sink.pipe d.host.pipes
  let within := { d.host with pipes := d.host.pipes + 1 }.setSink 1 (some pipe)
  let (host, status) := survived (m.shell "/bin/sh" within (ByteText.ofBytes script))
  let bytes := host.written pipe
  takeBack { host.forget pipe with fds := d.host.fds }
  return (bytes, status)

/-- Closes what was opened under a name; a command that was written to runs now. -/
def close (m : Manner) (name : Bytes) : Work Value := do
  let d ← get
  let source := d.sources.find? (·.name = name)
  modify fun d => { d with sources := d.sources.filter (·.name ≠ name) }
  match d.opened.find? (·.name = name) with
  | some o =>
    let status ← match o.flow with
      | .file path => do
        modify fun d => { d with host := d.host.emit (.file path) o.pending.reverse.flatten }
        pure 0
      | .command => runOn m o.name o.pending.reverse.flatten
    modify fun d => { d with opened := d.opened.filter (·.name ≠ name) }
    return .ofNat status
  | none =>
    match source with
    | some source => return .ofNat source.status
    | none => return .ofInt (-1)

/-- Closes everything. -/
def closeAll (m : Manner) : Work Unit := do
  for o in (← get).opened do
    let _ ← close m o.name
  flush

/-- Writes to a command, which is to run when it is closed. -/
def writeCommand (name bytes : Bytes) : Work Unit := do
  unless (← get).opened.any (·.name = name) do
    flush
    modify fun d => { d with opened := ⟨name, .command, []⟩ :: d.opened }
  addTo name bytes

/-- The source of lines under a name, which is opened if it is not yet; `none` if it cannot be. -/
def source? (m : Manner) (isCommand : Bool) (name : Bytes) : Work (Option Source) := do
  let d ← get
  match d.sources.find? fun s => s.name = name && s.isCommand = isCommand with
  | some s => return some s
  | none =>
    let opened : Option Source ← if isCommand then do
        let (bytes, status) ← outputOf m name
        pure (some ⟨name, true, .ofBytes bytes, status⟩)
      else
        flush
        let d ← get
        let shown := shownText name
        if shown = "-" || shown = "/dev/stdin" then
          set { d with host := { d.host with input := .empty } }
          pure (some ⟨name, false, d.host.input, 0⟩)
        else
          match Flow.named d.host.files d.host.input shown with
          | .ok flow => pure (some ⟨name, false, flow, 0⟩)
          | .error .isDirectory =>
            throw (.fault ("read error (" ++ Files.Error.isDirectory.reason ++ ")"))
          | .error _ => pure none
    modify fun d => { d with sources := opened.toList ++ d.sources }
    return opened

/-- The next line of a source. -/
def lineFrom? (s : Source) : Work (Option Bytes) := do
  let keep (flow : Flow) : Work Unit :=
    modify fun d => { d with sources := d.sources.map fun t =>
      if t.name = s.name && t.isCommand = s.isCommand then { t with flow } else t }
  match ← nextRecord s.flow with
  | some (line, rest) =>
    keep rest
    return some line
  | none =>
    keep .empty
    return none

/-! ## Values -/

/-- The second that it is now. -/
def secondsNow (host : State) : Int :=
  (host.filesNow.now : Int) / 1000000000

def zoneHere (host : State) : Time.Zone :=
  .ofText ((host.get? "TZ".toList).map ByteText.shown)

/-- Where a value can be put. -/
inductive Target
  | name (name : String)
  | field (i : Nat)
  | element (table : Nat) (key : Key)

namespace Target

def read : Target → Work Value
  | .name n => getName n
  | .field i => getField i
  | .element t k => Awk.element t k

def put (v : Value) : Target → Work Unit
  | .name n => setName n v
  | .field i => setField i v
  | .element t k => changeTable t (·.insert k v)

end Target

def numberOf (v : Value) : Floating :=
  v.toNumber

/-- The number of a field. -/
def fieldNumber (v : Value) : Work Nat := do
  let n := wholeOf v.toNumber
  if n < 0 then failNow ("negative field index $" ++ toString n)
  else if mostFields < n.toNat then outgrow "maximum number of fields" mostFields
  else return n.toNat

/-- Writes values as a line. -/
def lineOf (values : List Value) : Work Bytes := do
  let format ← numberFormat "OFMT"
  let between ← getText "OFS"
  let ending ← getText "ORS"
  return between.intercalate (values.map (·.toText format)) ++ ending

/-- How much room there is for a text that is made by a format. -/
def mostFormatted : Nat := 8192

/-- A format filled with values; the first value is the format. -/
def formatted (name : String) (values : List Value) : Work Bytes := do
  match values with
  | [] => return []
  | template :: values =>
    let template ← textOf template
    let most := if name = "sprintf" then some mostFormatted else none
    match format (← numberFormat "CONVFMT") most template values with
    | .ok bytes => return bytes
    | .error fault =>
      let shown := name ++ "(\"" ++ shownText template ++ "\")"
      match fault with
      | .tooFew => failNow ("not enough arguments passed to " ++ shown)
      | .improper n => failNow ("improper conversion(number " ++ n.repr ++ ") in " ++ shown)
      | .tooLong => outgrow "sprintf buffer" mostFormatted

/-- Puts a line that was read where it belongs. -/
def receive (place : Option Target) (line : Bytes) : Work Unit := do
  match place with
  | some place => place.put (.input line)
  | none => setRecord (.input line)

/-- A function of one number. -/
def machineFunction? : Intrinsic → Option (Float → Float)
  | .sin => some Float.sin
  | .cos => some Float.cos
  | .exp => some Float.exp
  | .log => some Float.log
  | .sqrt => some Float.sqrt
  | _ => none

/-- What a function without an effect makes of its arguments. -/
def applied (f : Intrinsic) (args : List Value) : Work Value := do
  let number (i : Nat) : Floating := (args.getD i .unset).toNumber
  match machineFunction? f with
  | some g => return .number (ofMachine (g (machineNumber (number 0))))
  | none =>
    match f with
    | .arctan =>
      return .number (ofMachine (Float.atan2 (machineNumber (number 0)) (machineNumber (number 1))))
    | .int => return .number (wholePart (number 0))
    | .substr =>
      let text ← textOf (args.getD 0 .unset)
      return .text (part text (number 1) (args[2]?.map Value.toNumber))
    | .index =>
      return .ofNat (indexOf (← textOf (args.getD 0 .unset)) (← textOf (args.getD 1 .unset)))
    | .lower =>
      return .text ((← textOf (args.getD 0 .unset)).map fun b =>
        if Tools.isUpper b then b + 0x20 else b)
    | .upper => return .text ((← textOf (args.getD 0 .unset)).map Tools.toUpper)
    | .sprintf => return .text (← formatted "sprintf" args)
    | .rand =>
      let d ← get
      return .number (.ofRatio .double ((d.steps * 7919 + 104729) % 1000003 : Nat) 1000003)
    | .seed =>
      let d ← get
      set { d with seed := args.getD 0 (.ofNat 1) }
      return d.seed
    | .now => return .ofInt (secondsNow (← get).host)
    | .timeOf => return .ofInt (timeOf (zoneHere (← get).host) (← textOf (args.getD 0 .unset)))
    | .timeText =>
      let host := (← get).host
      let form ← match args with
        | [] => pure (Bytes.ofString "%c")
        | v :: _ => textOf v
      let seconds : Int ← match args[1]? with
        | some v => pure (secondsOf v.toNumber)
        | none => pure (secondsNow host)
      let zone := if args[2]?.any fun v => wholeOf v.toNumber ≠ 0 then .universal else zoneHere host
      return .text (timeText zone seconds form)
    | _ => return .unset

/-- How many values can wait at once, with the arguments of all calls. -/
def mostCells : Nat := 1024

mutual

def eval (m : Manner) : Nat → Expr → Work Value
  | 0, _ => throw .stuck
  | fuel + 1, e => do
    match e with
    | .number x => return .number x
    | .text bytes => return .text bytes
    | .pattern p => return .ofBool (p.isIn (← recordText))
    | .name name => getName name
    | .field .. | .element .. => (← placeOf m fuel e).read
    | .assign target value =>
      let place ← placeOf m fuel target
      let v ← eval m fuel value
      place.put v
      return v
    | .update op target value =>
      let place ← placeOf m fuel target
      let b := (← eval m fuel value).toNumber
      let v := Value.number (arithmetic op (← place.read).toNumber b)
      place.put v
      return v
    | .step up isFirst target =>
      let place ← placeOf m fuel target
      let before := (← place.read).toNumber
      let after := arithmetic (if up then .add else .sub) before (.ofInt .double 1)
      place.put (.number after)
      return .number (if isFirst then after else before)
    | .choice c a b => if (← eval m fuel c).isTrue then eval m fuel a else eval m fuel b
    | .either a b =>
      if (← eval m fuel a).isTrue then return .ofBool true
      else return .ofBool (← eval m fuel b).isTrue
    | .both a b =>
      if (← eval m fuel a).isTrue then return .ofBool (← eval m fuel b).isTrue
      else return .ofBool false
    | .not e => return .ofBool !(← eval m fuel e).isTrue
    | .negate e => return .number (← eval m fuel e).toNumber.neg
    | .plus e => return .number (← eval m fuel e).toNumber
    | .contains keys array =>
      let key ← keysOf m fuel keys
      let n ← tableOf array
      let t ← getTable n
      if t.contains key then
        changeTable n (·.touch key)
        return .ofBool true
      else return .ofBool false
    | .matching negated e p =>
      let text ← textOf (← eval m fuel e)
      let p ← patternFor m fuel p
      return .ofBool (p.isIn text != negated)
    | .relation r a b =>
      let a ← eval m fuel a
      let b ← eval m fuel b
      return .ofBool (relationHolds r (a.compare? (← numberFormat "CONVFMT") b))
    | .join a b =>
      let a ← eval m fuel a
      let b ← eval m fuel b
      return .text ((← textOf a) ++ (← textOf b))
    | .arithmetic op a b =>
      let a := (← eval m fuel a).toNumber
      return .number (arithmetic op a (← eval m fuel b).toNumber)
    | .call name waiting args => call m fuel name waiting args
    | .intrinsic f args => intrinsic m fuel f args
    | .nextLine target =>
      let place ← target.mapM (placeOf m fuel)
      match ← nextMainRecord with
      | some line =>
        receive place line
        return .ofNat 1
      | none => return .ofNat 0
    | .lineOf target file =>
      let place ← target.mapM (placeOf m fuel)
      let name ← textOf (← eval m fuel file)
      match ← source? m false name with
      | none => return .ofInt (-1)
      | some source =>
        match ← lineFrom? source with
        | some line =>
          receive place line
          return .ofNat 1
        | none => return .ofNat 0
    | .lineFrom target command =>
      let name ← textOf (← eval m fuel command)
      let place ← target.mapM (placeOf m fuel)
      match ← source? m true name with
      | none => return .ofInt (-1)
      | some source =>
        match ← lineFrom? source with
        | some line =>
          receive place line
          return .ofNat 1
        | none => return .ofNat 0
    | .group members => return ((← members.mapM (eval m fuel)).getLast?).getD .unset

/-- The place that an expression names. -/
def placeOf (m : Manner) : Nat → Expr → Work Target
  | 0, _ => throw .stuck
  | fuel + 1, e => do
    match e with
    | .name name => return .name name
    | .field e => return .field (← fieldNumber (← eval m fuel e))
    | .element array keys =>
      let key ← keysOf m fuel keys
      return .element (← tableOf array) key
    | .group [e] => placeOf m fuel e
    | _ => throw .stuck

/-- The key that some expressions name, which are joined if there is more than one. -/
def keysOf (m : Manner) : Nat → List Expr → Work Key
  | 0, _ => throw .stuck
  | fuel + 1, keys => do
    match keys with
    | [e] => keyOf (← eval m fuel e)
    | keys =>
      let parts ← keys.mapM fun e => do textOf (← eval m fuel e)
      return .text ((← getText "SUBSEP").intercalate parts)

/-- The pattern that an expression stands for. -/
def patternFor (m : Manner) : Nat → Expr → Work Pattern
  | 0, _ => throw .stuck
  | fuel + 1, e => do
    match e with
    | .pattern p => return p
    | .group [.pattern p] => return p
    | e => patternIn (← textOf (← eval m fuel e))

/-- Calls a function of the program: tables are handed over themselves. -/
def call (m : Manner) : Nat → String → Nat → List Expr → Work Value
  | 0, _, _, _ => throw .stuck
  | fuel + 1, name, waiting, args => do
    tick
    match m.program.functions.find? (·.name = name) with
    | none => throw .stuck
    | some f =>
      let given ← args.mapM fun e => do
        match e with
        | .name name =>
          if name = "NF" then return Slot.value (← getName name)
          else
            match ← slot? name with
            | some s => return s
            | none =>
              let s := Slot.vague (← newTable)
              setSlot name s
              return s
        | e => return .value (← eval m fuel e)
      let firstOwn := (← get).nextTable
      let own ← (f.params.drop given.length).mapM fun _ => return Slot.vague (← newTable)
      let outer := (← get).locals
      let cells := (← get).cells
      let within := cells + waiting + f.params.length
      if mostCells < within then
        throw (.fault ("program limit exceeded: eval stack size=" ++ mostCells.repr))
      modify fun d => { d with locals := f.params.zip (given ++ own), cells := within }
      let result ← try
          exec m fuel f.body
          pure Value.unset
        catch
        | .give v => pure v
        | e => throw e
      modify fun d => { d with
        locals := outer
        cells
        tables := (List.range own.length).foldl (fun (tables : Std.HashMap Nat Table) i =>
          tables.erase (firstOwn + i)) d.tables }
      return result

/-- Calls a function that is there without being defined. -/
def intrinsic (m : Manner) : Nat → Intrinsic → List Expr → Work Value
  | 0, _, _ => throw .stuck
  | fuel + 1, f, args => do
    let textAt (i : Nat) : Work Bytes := do
      match args[i]? with
      | some e => textOf (← eval m fuel e)
      | none => recordText
    match f, args with
    | .length, [.name name] =>
      match ← slot? name with
      | some (.table n) | some (.vague n) => return .ofNat (← getTable n).size
      | _ => return .ofNat (← textOf (← getName name)).length
    | .length, _ => return .ofNat (← textAt 0).length
    | .split, e :: .name array :: rest =>
      let text ← textOf (← eval m fuel e)
      let separator ← match rest with
        | [] => separatorOf (← getText "FS")
        | .pattern p :: _ => pure (.pattern p)
        | e :: _ => separatorOf (← textOf (← eval m fuel e))
      let parts := (separator.parts text).map Value.input
      setTable (← tableOf array) (.ofParts parts)
      return .ofNat parts.length
    | .matching, [e, p] =>
      let text ← textOf (← eval m fuel e)
      let p ← patternFor m fuel p
      let (start, size) : Int × Int := match p.find? (.ofText text) with
        | some (b, e) => (b.passed + 1, e.passed - b.passed)
        | none => (0, -1)
      setName "RSTART" (.ofInt start)
      setName "RLENGTH" (.ofInt size)
      return .ofInt start
    | .sub, p :: replacement :: rest => exchange m fuel false p replacement rest
    | .gsub, p :: replacement :: rest => exchange m fuel true p replacement rest
    | .system, _ => return .ofNat (← runScript m "sh" (← textAt 0))
    | .close, _ => close m (← textAt 0)
    | .flush, [] =>
      flush
      return .ofNat 0
    | .flush, _ =>
      let name ← textAt 0
      flush
      let isKnown := (← get).opened.any (·.name = name) ||
        ["/dev/stdout", "-", "/dev/stderr"].contains (shownText name)
      return .ofInt (if isKnown then 0 else -1)
    | .lower, [] | .upper, [] => applied f [.text (← recordText)]
    | f, args => applied f (← args.mapM (eval m fuel))

/-- Puts something in place of what a pattern matches, in the record or elsewhere. -/
def exchange (m : Manner) : Nat → Bool → Expr → Expr → List Expr → Work Value
  | 0, _, _, _, _ => throw .stuck
  | fuel + 1, all, p, replacement, rest => do
    let p ← patternFor m fuel p
    let replacement ← textOf (← eval m fuel replacement)
    let target := rest.headD (.field (.number .zero))
    if target.isTarget then
      let place ← placeOf m fuel target
      match substitute p replacement all (← textOf (← place.read)) with
      | none => return .ofNat 0
      | some (text, n) =>
        place.put (.text text)
        return .ofNat n
    else
      match substitute p replacement all (← textOf (← eval m fuel target)) with
      | none => return .ofNat 0
      | some (_, n) => return .ofNat n

/-- Writes some bytes where they are to go. -/
def send (m : Manner) : Nat → Option Redirect → Bytes → Work Unit
  | 0, _, _ => throw .stuck
  | fuel + 1, redirect, bytes => do
    match redirect with
    | none => write bytes
    | some (.file e) => writeFile (← textOf (← eval m fuel e)) false bytes
    | some (.append e) => writeFile (← textOf (← eval m fuel e)) true bytes
    | some (.command e) => writeCommand (← textOf (← eval m fuel e)) bytes

def exec (m : Manner) : Nat → Statement → Work Unit
  | 0, _ => throw .stuck
  | fuel + 1, s => do
    tick
    match s with
    | .expr e => discard (eval m fuel e)
    | .print args redirect =>
      let values ← if args.isEmpty then pure [Value.text (← recordText)]
        else args.mapM (eval m fuel)
      send m fuel redirect (← lineOf values)
    | .printf args redirect =>
      let values ← args.mapM (eval m fuel)
      send m fuel redirect (← formatted "printf" values)
    | .branch c a b =>
      if (← eval m fuel c).isTrue then exec m fuel a
      else
        match b with
        | some b => exec m fuel b
        | none => pure ()
    | .loop c body =>
      iterate (do
        tick
        if (← eval m fuel c).isTrue then turn m fuel body else return false) stepLimit
    | .loopOnce body c =>
      iterate (do
        tick
        if ← turn m fuel body then return (← eval m fuel c).isTrue else return false) stepLimit
    | .count start c step body =>
      match start with
      | some s => exec m fuel s
      | none => pure ()
      iterate (do
        tick
        let goesOn ← match c with
          | some c => do pure (← eval m fuel c).isTrue
          | none => pure true
        if !goesOn then return false
        else if ← turn m fuel body then
          match step with
          | some s => exec m fuel s
          | none => pure ()
          return true
        else return false) stepLimit
    | .each name array body =>
      let n ← tableOf array
      let (keys, t) := (← getTable n).keys
      setTable n t
      let _ ← keys.foldlM (fun (goesOn : Bool) key => do
        if goesOn then
          setName name (.text key)
          turn m fuel body
        else return false) true
    | .block body => execAll m fuel body
    | .next => throw .next
    | .nextFile => throw .nextFile
    | .exit code =>
      match code with
      | some e =>
        let n := wholeOf (← eval m fuel e).toNumber
        modify fun d => { d with code := (n % 256).toNat }
      | none => pure ()
      throw .exit
    | .give value =>
      match value with
      | some e => throw (.give (← eval m fuel e))
      | none => throw (.give .unset)
    | .leave => throw .leave
    | .again => throw .again
    | .delete array keys =>
      let n ← tableOf array
      match keys with
      | some keys =>
        let key ← keysOf m fuel keys
        changeTable n (·.erase key)
      | none => setTable n .empty

def execAll (m : Manner) : Nat → List Statement → Work Unit
  | 0, _ => throw .stuck
  | fuel + 1, body => body.forM (exec m fuel)

/-- Runs the body of a loop; the answer is whether the loop goes on. -/
def turn (m : Manner) : Nat → Statement → Work Bool
  | 0, _ => throw .stuck
  | fuel + 1, body => do
    try
      exec m fuel body
      return true
    catch
    | .leave => return false
    | .again => return true
    | e => throw e

end

/-! ## Rules -/

/-- How deeply a program may be nested while it runs. -/
def depth : Nat := 20000

/-- Is a rule for the record at hand? -/
def chosen (m : Manner) (i : Nat) (s : Selector) : Work Bool := do
  match s with
  | .atStart | .atEnd => return false
  | .all => return true
  | .those e => return (← eval m depth e).isTrue
  | .between first last =>
    let isInside := (← get).inside.contains i
    let begins ← if isInside then pure true else Value.isTrue <$> eval m depth first
    if begins then
      let ends := (← eval m depth last).isTrue
      modify fun d => { d with inside :=
        if ends then d.inside.erase i else if isInside then d.inside else i :: d.inside }
      return true
    else return false

def obey (m : Manner) (r : Rule) : Work Unit := do
  match r.body with
  | some body => exec m depth body
  | none => write (← lineOf [.text (← recordText)])

/-- Takes the next record through all rules. -/
def takeRecord (m : Manner) (rules : List (Rule × Nat)) : Work Bool := do
  tick
  match ← nextMainRecord with
  | none => return false
  | some record =>
    setRecord (.input record)
    try
      for (r, i) in rules do
        if ← chosen m i r.selector then obey m r
    catch
    | .next => pure ()
    | .nextFile => modify fun d => { d with input := none }
    | e => throw e
    return true

def Selector.isAtStart : Selector → Bool
  | .atStart => true
  | _ => false

def Selector.isAtEnd : Selector → Bool
  | .atEnd => true
  | _ => false

/-- Runs a stage of a program, which an exit ends. -/
def stage (w : Work Unit) : Work Bool := do
  try
    w
    return true
  catch
  | .exit => return false
  | e => throw e

/-- Runs a program: its beginning, the rules for records if there are any for these or for the end,
and its end. -/
def runAll (m : Manner) : Work Unit := do
  let rules := m.program.rules.zipIdx
  let atStart := rules.filter fun (r, _) => r.selector.isAtStart
  let atEnd := rules.filter fun (r, _) => r.selector.isAtEnd
  let others := rules.filter fun (r, _) => !r.selector.isAtStart && !r.selector.isAtEnd
  let goesOn ← stage (atStart.forM fun (r, _) => obey m r)
  if goesOn && !(others.isEmpty && atEnd.isEmpty) then
    let _ ← stage (iterate (takeRecord m others) stepLimit)
  modify fun d => { d with locals := [] }
  if goesOn || !others.isEmpty || !atEnd.isEmpty then
    let _ ← stage (atEnd.forM fun (r, _) => obey m r)

end Scratchpad.Shell.Awk
