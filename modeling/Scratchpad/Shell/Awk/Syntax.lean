import Scratchpad.Shell.Awk.Tokens

/-!
# The syntax of the record language

The words of a program are put together from the weakest bond to the strongest. Texts that stand side
by side are joined, more weakly than sums and more strongly than comparisons. Every function here
reads from the front of the words that are left; the fuel bounds how deeply they are nested.

A text that is no program is read to its end, so that up to five faults are known. Behind a fault in a
statement reading goes on with the next statement, and behind one outside of all statements with the
next block, which counts for nothing. What a name is for, a value or a table, is settled by its first
use; a parameter has its kind from the body of its function or from a call before.
-/

namespace Scratchpad.Shell.Awk

/-- What a name is for. -/
inductive Kind
  | unsettled
  | value
  | table
deriving DecidableEq

/-- A name of the program, or a parameter of the function at hand. -/
inductive Symbol
  | global (name : String)
  | param (callee : String) (i : Nat)
deriving DecidableEq

/-- What is handed over in a call: a value, a table, or a name that may be either. -/
inductive Given
  | value
  | table
  | symbol (s : Symbol)

/-- A function that is known by its name, with the kinds of its parameters from its head on. -/
structure Known where
  name : String
  kinds : Option (List Kind)

/-- A call whose arguments are to be compared with the parameters later. -/
structure Pending where
  callee : String
  args : List (Nat × Given)
  position : Position

/-- What is left of the words, and what is known from those before. `uses` are the kinds that the parameters of
the function at hand have in its own body. -/
structure Draft where
  rest : List Lexeme
  ending : Position
  faults : List SyntaxFault
  brackets : Nat
  braces : Nat
  quiet : Nat
  globals : List (String × Kind)
  callee : String
  params : List String
  uses : List Kind
  functions : List Known
  pending : List Pending

/-- Why reading does not go on: it can after some words, or it cannot. -/
inductive Lapse
  | here
  | final

/-- A reader of words. -/
abbrev Reading := EStateM Lapse Draft

/-- Where an expression or a statement stands, which says what may be in it. -/
structure Place where
  inOutput : Bool
  inFunction : Bool
  inLoop : Bool
  inRecord : Bool
  waiting : Nat

namespace Place

/-- The place within brackets, where every sign means what it does elsewhere. -/
def inside (p : Place) : Place :=
  { p with inOutput := false }

/-- The place behind values that wait. -/
def behind (p : Place) (n : Nat) : Place :=
  { p with waiting := p.waiting + n }

end Place

/-! ## Faults -/

/-- How many faults are told. -/
def mostFaults : Nat := 5

def noteAt (position : Position) (cause : Cause) : Reading Unit := do
  modify fun d => { d with faults := ⟨cause, position⟩ :: d.faults }
  if mostFaults ≤ (← get).faults.length then throw .final

def here : Reading Position := do
  let d ← get
  return (d.rest.head?.map (·.position)).getD d.ending

def note (cause : Cause) : Reading Unit := do
  noteAt (← here) cause

/-! ## Words -/

/-- May the next word be in another line than this one? -/
def Token.isOpen : Token → Bool
  | .newline => true
  | .sign text => [";", "\x7b", "\x7d", "&&", "||", ","].contains text
  | .keyword word => word = "else" || word = "do"
  | _ => false

/-- Makes the first of some words the one at hand. A bracket or brace that closes nothing is left out, and
so is a semicolon behind such a brace. -/
def arrive (skipsMark : Bool) : List Lexeme → Reading Unit
  | [] => modify ({ · with rest := [] })
  | l :: rest => do
    let take (f : Draft → Draft) : Reading Unit := modify fun d => f { d with rest := l :: rest }
    match l.token with
    | .sign "(" => take fun d => { d with brackets := d.brackets + 1 }
    | .sign ")" =>
      if (← get).brackets = 0 then
        noteAt l.position (.extra ")")
        arrive false rest
      else take fun d => { d with brackets := d.brackets - 1 }
    | .sign "\x7b" => take fun d => { d with braces := d.braces + 1 }
    | .sign "\x7d" =>
      if (← get).braces = 0 then
        noteAt l.position (.extra "\x7d")
        arrive true rest
      else take fun d => { d with braces := d.braces - 1 }
    | .sign ";" => if skipsMark then arrive false rest else take id
    | .flaw cause =>
      noteAt l.position cause
      if cause matches .runaway .. then throw .final else arrive false rest
    | _ => take id

def dropNewlines (l : List Lexeme) : List Lexeme :=
  l.dropWhile (·.token = .newline)

/-- Goes on to the next word. Behind a brace that closes a rule a semicolon is left out. -/
def advance : Reading Unit := do
  let d ← get
  set { d with quiet := d.quiet - 1 }
  match d.rest with
  | [] => pure ()
  | l :: rest =>
    let rest := match rest with
      | m :: others =>
        if l.token = .sign "\x7d" && d.braces = 0 && m.token = .sign ";" then others else rest
      | [] => rest
    arrive false (if l.token.isOpen then dropNewlines rest else rest)

def peek? : Reading (Option Token) := do
  return (← get).rest.head?.map (·.token)

def peekAt? (i : Nat) : Reading (Option Token) := do
  return (← get).rest[i]?.map (·.token)

/-- What is wrong with the word at hand. -/
def faultHere : Reading Cause := do
  let d ← get
  let endsBracket (t : Token) : Bool := t = .newline || t = .sign ";" || t = .sign "\x7d"
  let token : Option Token := d.rest.head?.map (·.token)
  match token with
  | none =>
    return if 0 < d.brackets then .missing ")" "end of file"
      else if 0 < d.braces then .missing "\x7d" "end of file"
      else .near "end of file"
  | some (.broken cause) => return cause
  | some (.keyword word) =>
    if 0 < d.braces && (word = "BEGIN" || word = "END") then
      set { d with braces := 0 }
      return .missing "\x7d" word
    else return .near word
  | some t =>
    if 0 < d.brackets && endsBracket t then
      set { d with brackets := 0 }
      return .missing ")" t.shown
    else return .near t.shown

/-- Ends the reading of a statement or a rule. Nothing is told of what comes right behind a fault. -/
def failHere {α : Type} : Reading α := do
  if (← get).quiet = 0 then
    note (← faultHere)
  modify ({ · with quiet := 3 })
  throw (if (← get).rest.isEmpty then .final else .here)

def atSign (text : String) : Reading Bool := do
  return (← peek?) = some (.sign text)

/-- Takes a sign if it is there. -/
def accept (text : String) : Reading Bool := do
  if ← atSign text then
    advance
    return true
  else return false

def expect (text : String) : Reading Unit := do
  unless ← accept text do failHere

/-- Takes a closing bracket and the ends of lines behind it. -/
def expectClosing : Reading Unit := do
  unless ← atSign ")" do failHere
  modify fun d => match d.rest with
    | l :: rest => { d with rest := l :: dropNewlines rest }
    | [] => d
  advance

/-- The sign at hand that a list gives a meaning to. -/
def acceptAny? {α : Type} (table : List (String × α)) : Reading (Option α) := do
  match ← peek? with
  | some (.sign text) =>
    match table.lookup text with
    | some meaning =>
      advance
      return some meaning
    | none => return none
  | _ => return none

/-! ## Names -/

/-- The names that are there without being used, but for the number of fields. -/
def ownNames : List (String × Kind) :=
  [("NR", .value), ("FNR", .value), ("FS", .value), ("OFS", .value), ("ORS", .value), ("RS", .value),
    ("SUBSEP", .value), ("CONVFMT", .value), ("OFMT", .value), ("FILENAME", .value),
    ("RSTART", .value), ("RLENGTH", .value), ("ARGC", .value), ("ARGV", .table), ("ENVIRON", .table)]

def symbolOf (name : String) : Reading Symbol := do
  let d ← get
  match d.params.findIdx? (· = name) with
  | some i => return .param d.callee i
  | none => return .global name

def known? (name : String) : Reading (Option Known) := do
  return (← get).functions.find? (·.name = name)

def kindOf (s : Symbol) : Reading Kind := do
  match s with
  | .global name => return ((← get).globals.lookup name).getD .unsettled
  | .param callee i => return (((← known? callee).bind (·.kinds)).bind (·[i]?)).getD .unsettled

/-- Is there a function of that name? -/
def isFunction (name : String) : Reading Bool := do
  match ← symbolOf name with
  | .param .. => return false
  | .global name => return (← known? name).isSome

def settle (s : Symbol) (k : Kind) : Reading Unit :=
  modify fun d =>
    match s with
    | .global name => { d with globals := (name, k) :: d.globals.filter (·.1 ≠ name) }
    | .param callee i =>
      { d with functions := d.functions.map fun f =>
        if f.name = callee then { f with kinds := f.kinds.map (·.set i k) } else f }

def Symbol.shown : Symbol → Kind → String
  | .global _, .table => "array"
  | .global _, _ => "variable"
  | .param .., .table => "local array"
  | .param .., _ => "local variable"

/-- What a name is for at the place at hand. -/
def kindHere (s : Symbol) : Reading Kind := do
  match s with
  | .param _ i => return ((← get).uses[i]?).getD .unsettled
  | s => kindOf s

/-- Uses a name as one of a kind. -/
def usedAs (k : Kind) (name : String) : Reading Unit := do
  unless name = "NF" do
    let s ← symbolOf name
    let before ← kindHere s
    if before = .unsettled then
      settle s k
      match s with
      | .param _ i => modify fun d => { d with uses := d.uses.set i k }
      | _ => pure ()
    else if before ≠ k then note (.illegal (s.shown before) name)

/-- Compares what is handed over with the parameters: what cannot be compared yet is left. -/
def compareArgs (callee : String) (position : Position) (args : List (Nat × Given)) :
    Reading (List (Nat × Given)) := do
  let left ← args.filterM fun (i, given) => do
    let param := Symbol.param callee i
    let kind ← kindOf param
    let actual ← match given with
      | .value => pure Kind.value
      | .table => pure Kind.table
      | .symbol s => kindOf s
    match actual, kind with
    | .unsettled, .unsettled => return true
    | .unsettled, kind =>
      match given with
      | .symbol s => settle s kind
      | _ => pure ()
      return false
    | actual, .unsettled =>
      settle param actual
      return false
    | actual, kind =>
      if actual ≠ kind then noteAt position (.mismatch (i + 1) callee)
      return false
  return left

/-- Notes a call, whose arguments are looked at as soon as the function is known. -/
def noteCall (callee : String) (given : List Given) : Reading Unit := do
  let position ← here
  let args := given.zipIdx.map fun (g, i) => (i, g)
  let keep (args : List (Nat × Given)) : Reading Unit :=
    modify fun d => { d with pending := ⟨callee, args, position⟩ :: d.pending }
  match ← known? callee with
  | some ⟨_, some kinds⟩ =>
    if kinds.length < given.length then note (.tooMany callee)
    else
      let left ← compareArgs callee position args
      unless left.isEmpty do keep left
  | some _ => keep args
  | none =>
    modify fun d => { d with functions := d.functions ++ [⟨callee, none⟩] }
    keep args

/-- What is known of a function's parameters from the calls before its head. -/
def foretold (callee : String) (size : Nat) : Reading (List Kind) := do
  let d ← get
  let calls := (d.pending.filter (·.callee = callee)).reverse
  (List.range size).mapM fun i => do
    for c in calls do
      match c.args.lookup i with
      | some .value => return .value
      | some .table => return .table
      | _ => pure ()
    return .unsettled

/-- Looks at the calls whose functions were not known: those that were never defined, those with too many
arguments, and then the kinds of these, as often as more gets known. -/
def resolve : Reading Unit := do
  let d ← get
  let calls ← d.pending.filterM fun c => do
    match ← known? c.callee with
    | some ⟨_, some kinds⟩ =>
      if c.args.any fun (i, _) => kinds.length ≤ i then
        noteAt c.position (.tooMany c.callee)
        return false
      else return true
    | _ =>
      noteAt d.ending (.undefined c.callee)
      return false
  let rec rounds : Nat → List Pending → Reading Unit
    | 0, _ => pure ()
    | n + 1, calls => do
      let left ← calls.mapM fun c => do
        return { c with args := ← compareArgs c.callee c.position c.args }
      rounds n (left.filter fun c => !c.args.isEmpty)
  rounds (calls.length + 1) calls

/-! ## Expressions -/

def updates : List (String × Option Arithmetic) :=
  [("=", none), ("+=", some .add), ("-=", some .sub), ("*=", some .mul), ("/=", some .div),
    ("%=", some .rem), ("^=", some .pow)]

def relations (p : Place) : List (String × Relation) :=
  [("<", .less), ("<=", .atMost), ("==", .equal), ("!=", .unequal), (">=", .atLeast)] ++
    if p.inOutput then [] else [(">", .more)]

/-- Can a word begin an operand that is joined to the one before? -/
def Token.joins : Token → Bool
  | .number .. | .quoted _ | .pattern _ | .name _ | .callee _ | .intrinsic .. => true
  | .sign text => ["$", "(", "++", "--", "-", "+"].contains text
  | _ => false

/-- Does a word end what is written? -/
def endsOutput : Option Token → Bool
  | none | some .newline => true
  | some (.sign text) => [";", "\x7d", ">", ">>", "|"].contains text
  | _ => false

/-- Operands of one strength, read from the left. -/
def leftward (operand : Reading Expr) (table : List (String × (Expr → Expr → Expr))) :
    Nat → Expr → Reading Expr
  | 0, a => return a
  | n + 1, a => do
    match ← acceptAny? table with
    | some make => leftward operand table n (make a (← operand))
    | none => return a

/-- Operands side by side. -/
def joined (operand : Reading Expr) : Nat → Expr → Reading Expr
  | 0, a => return a
  | n + 1, a => do
    match ← peek? with
    | some token => if token.joins then joined operand n (.join a (← operand)) else return a
    | none => return a

/-- Members with commas between them; each is behind as many values as there are members before. -/
def separated (member : Nat → Reading Expr) : Nat → Nat → Reading (List Expr)
  | 0, _ => return []
  | n + 1, i => do
    let first ← member i
    if ← accept "," then return first :: (← separated member n (i + 1))
    else return [first]

/-- The lines of commands that a value is followed by. -/
def pipedLines (target : Reading (Option Expr)) : Nat → Expr → Reading Expr
  | 0, e => return e
  | n + 1, e => do
    if (← atSign "|") && (← peekAt? 1) = some (.keyword "getline") then
      advance
      advance
      pipedLines target n (.lineFrom (← target) e)
    else return e

/-- Membership of what was read in arrays. -/
def memberships : Nat → Expr → Reading Expr
  | 0, e => return e
  | n + 1, e => do
    if (← peek?) = some (.keyword "in") then
      advance
      match ← peek? with
      | some (.name array) =>
        advance
        usedAs .table array
        let keys := match e with
          | .group members => members
          | e => [e]
        memberships n (.contains keys array)
      | _ => failHere
    else return e

/-- A pattern for a text that is written out. -/
def asPattern (e : Expr) : Reading Expr := do
  match e with
  | .text bytes =>
    match patternOf bytes with
    | .ok pattern => return .pattern pattern
    | .error fault =>
      note (.pattern fault bytes)
      throw .final
  | e => return e

/-- How many arguments a function takes, if any number between two is right. -/
def arity : Intrinsic → Nat × Nat
  | .length | .seed | .flush => (0, 1)
  | .substr => (2, 3)
  | .index | .arctan => (2, 2)
  | .sprintf => (1, 1000)
  | .rand | .now => (0, 0)
  | .timeText => (0, 3)
  | _ => (1, 1)

/-- The name of a table. -/
def tableName : Reading String := do
  match ← peek? with
  | some (.name name) =>
    if name = "NF" || (← isFunction name) then failHere
    else
      advance
      usedAs .table name
      return name
  | _ => failHere

mutual

/-- Any expression. -/
def expression : Nat → Place → Reading Expr
  | 0, _ => failHere
  | fuel + 1, p => do
    let c ← eithers fuel p
    if ← accept "?" then
      let a ← expression fuel p
      expect ":"
      return .choice c a (← expression fuel p)
    else return c

def eithers : Nat → Place → Reading Expr
  | 0, _ => failHere
  | fuel + 1, p => do leftward (boths fuel p) [("||", .either)] fuel (← boths fuel p)

def boths : Nat → Place → Reading Expr
  | 0, _ => failHere
  | fuel + 1, p => do leftward (members fuel p) [("&&", .both)] fuel (← members fuel p)

def members : Nat → Place → Reading Expr
  | 0, _ => failHere
  | fuel + 1, p => do memberships fuel (← matches' fuel p)

def matches' : Nat → Place → Reading Expr
  | 0, _ => failHere
  | fuel + 1, p => do
    let pattern : Reading Expr := do asPattern (← relateds fuel (p.behind 1))
    leftward pattern [("~", .matching false), ("!~", .matching true)] fuel (← relateds fuel p)

def relateds : Nat → Place → Reading Expr
  | 0, _ => failHere
  | fuel + 1, p => do
    let table := (relations p).map fun (text, r) => (text, Expr.relation r)
    leftward (joins fuel (p.behind 1)) table fuel (← joins fuel p)

/-- Texts side by side, or something that is given a value. -/
def joins : Nat → Place → Reading Expr
  | 0, _ => failHere
  | fuel + 1, p => do
    let first ← sums fuel p
    let op ← if first.isTarget then acceptAny? updates else pure none
    match op with
    | none => joined (sums fuel (p.behind 1)) fuel first
    | some op =>
      let value ← expression fuel (p.behind 1)
      return match op with
        | none => .assign first value
        | some op => .update op first value

def sums : Nat → Place → Reading Expr
  | 0, _ => failHere
  | fuel + 1, p => do
    leftward (products fuel (p.behind 1)) [("+", .arithmetic .add), ("-", .arithmetic .sub)] fuel
      (← products fuel p)

def products : Nat → Place → Reading Expr
  | 0, _ => failHere
  | fuel + 1, p => do
    leftward (signed fuel (p.behind 1))
      [("*", .arithmetic .mul), ("/", .arithmetic .div), ("%", .arithmetic .rem)] fuel
      (← signed fuel p)

/-- A value with signs in front. -/
def signed : Nat → Place → Reading Expr
  | 0, _ => failHere
  | fuel + 1, p => do
    if ← accept "!" then return .not (← signed fuel p)
    else if ← accept "-" then return .negate (← signed fuel p)
    else if ← accept "+" then return .plus (← signed fuel p)
    else
      let base ← stepped fuel p
      let e ← if ← accept "^" then pure (.arithmetic .pow base (← signed fuel (p.behind 1)))
        else pure base
      pipedLines (target? fuel p) fuel e

/-- A value that may be stepped. -/
def stepped : Nat → Place → Reading Expr
  | 0, _ => failHere
  | fuel + 1, p => do
    let e ← operand fuel p
    if !e.isTarget then return e
    else if ← accept "++" then return .step true false e
    else if ← accept "--" then return .step false false e
    else return e

/-- What a line is read into, if it is said. -/
def target? : Nat → Place → Reading (Option Expr)
  | 0, _ => failHere
  | fuel + 1, p => do
    match ← peek? with
    | some (.name name) => if ← isFunction name then return none else return some (← operand fuel p)
    | some (.sign "$") => return some (← operand fuel p)
    | _ => return none

/-- Something that can be given a value. -/
def target : Nat → Place → Reading Expr
  | 0, _ => failHere
  | fuel + 1, p => do
    match ← target? fuel p with
    | some e => return e
    | none =>
      if ← accept "(" then
        match ← peek? with
        | some (.sign "$") | some (.sign "(") | some (.name "NF") =>
          let e ← target fuel p
          expect ")"
          return e
        | _ => failHere
      else failHere

/-- An operand without signs. -/
def operand : Nat → Place → Reading Expr
  | 0, _ => failHere
  | fuel + 1, p => do
    match ← peek? with
    | some (.number x _) =>
      advance
      return .number x
    | some (.quoted bytes) =>
      advance
      return .text bytes
    | some (.pattern bytes) =>
      match patternOf bytes with
      | .ok pattern =>
        advance
        return .pattern pattern
      | .error fault =>
        note (.pattern fault bytes)
        throw .final
    | some (.sign "(") =>
      advance
      let found ← separated (fun i => expression fuel (p.inside.behind i)) fuel 0
      expect ")"
      match found with
      | [.field e] => return .field e
      | [e] => return .group [e]
      | found =>
        let next ← peek?
        if next = some (.keyword "in") || (p.inOutput && endsOutput next) then return .group found
        else failHere
    | some (.sign "$") =>
      advance
      if ← accept "++" then return .field (.step true true (← target fuel p))
      else if ← accept "--" then return .field (.step false true (← target fuel p))
      else if ← accept "-" then return .field (.negate (← operand fuel p))
      else if ← accept "+" then return .field (.plus (← operand fuel p))
      else if ← accept "!" then return .field (.not (← operand fuel p))
      else return .field (← operand fuel p)
    | some (.sign "++") =>
      advance
      return .step true true (← target fuel p)
    | some (.sign "--") =>
      advance
      return .step false true (← target fuel p)
    | some (.name name) =>
      advance
      if ← isFunction name then called fuel p name
      else if name ≠ "NF" && (← atSign "[") then
        advance
        let keys ← separated (fun i => expression fuel (p.inside.behind i)) fuel 0
        expect "]"
        usedAs .table name
        return .element name keys
      else
        usedAs .value name
        return .name name
    | some (.callee name) =>
      advance
      let s ← symbolOf name
      if s matches .global _ then
        if (← kindOf s) = .unsettled && name ≠ "NF" then called fuel p name
        else
          usedAs .value name
          return .name name
      else
        usedAs .value name
        return .name name
    | some (.intrinsic f name) =>
      advance
      if f = .length && !(← atSign "(") then return .intrinsic .length []
      else
        match f with
        | .split =>
          expect "("
          let e ← expression fuel p.inside
          expect ","
          let array ← tableName
          let rest ← if ← accept "," then pure [← expression fuel (p.inside.behind 2)] else pure []
          expect ")"
          return .intrinsic f (e :: .name array :: rest)
        | .matching =>
          expect "("
          let e ← expression fuel p.inside
          expect ","
          let pattern ← asPattern (← expression fuel (p.inside.behind 1))
          expect ")"
          return .intrinsic f [e, pattern]
        | .sub | .gsub =>
          expect "("
          let pattern ← asPattern (← expression fuel p.inside)
          expect ","
          let e ← expression fuel (p.inside.behind 1)
          let rest ← if ← accept "," then pure [← target fuel (p.inside.behind 2)] else pure []
          expect ")"
          return .intrinsic f (pattern :: e :: rest)
        | .length =>
          expect "("
          if ← accept ")" then return .intrinsic f []
          else
            let e ← argument fuel p.inside
            expect ")"
            return .intrinsic f [e]
        | f =>
          let args ← arguments fuel p
          let (least, most) := arity f
          if args.length < least || most < args.length then note (.arity name)
          return .intrinsic f args
    | some (.keyword "getline") =>
      advance
      let target ← target? fuel p
      if ← accept "<" then return .lineOf target (← stepped fuel p) else return .nextLine target
    | _ => failHere

/-- An argument, in which a bare name may be that of a table. -/
def argument : Nat → Place → Reading Expr
  | 0, _ => failHere
  | fuel + 1, p => do
    match ← peek?, ← peekAt? 1 with
    | some (.name name), some (.sign mark) =>
      if (mark = "," || mark = ")") && name ≠ "NF" && !(← isFunction name) then
        advance
        return .name name
      else expression fuel p
    | _, _ => expression fuel p

/-- Arguments in brackets. -/
def arguments : Nat → Place → Reading (List Expr)
  | 0, _ => failHere
  | fuel + 1, p => do
    expect "("
    if ← accept ")" then return []
    else
      let found ← separated (fun i => expression fuel (p.inside.behind i)) fuel 0
      expect ")"
      return found

/-- A call of a function of the program, behind its name. -/
def called : Nat → Place → String → Reading Expr
  | 0, _, _ => failHere
  | fuel + 1, p, name => do
    if (← known? name).isNone then
      modify fun d => { d with functions := d.functions ++ [⟨name, none⟩] }
    expect "("
    let args ← if ← atSign ")" then pure []
      else separated (fun i => argument fuel (p.inside.behind i)) fuel 0
    unless ← atSign ")" do failHere
    let given ← args.mapM fun e => do
      match e with
      | .name n =>
        if n = "NF" then return Given.value
        else
          let s ← symbolOf n
          match ← kindHere s with
          | .value => return Given.value
          | .table => return Given.table
          | .unsettled => return Given.symbol s
      | _ => return Given.value
    noteCall name given
    advance
    return .call name p.waiting args

end

/-! ## Statements -/

/-- The end of a statement: a semicolon, the end of the line, or a brace that is to come. -/
def finish : Reading Unit := do
  match ← peek? with
  | some .newline | some (.sign ";") => advance
  | some (.sign "\x7d") => pure ()
  | _ => failHere

/-- What is to be written, and where. -/
def output (fuel : Nat) (p : Place) : Reading (List Expr × Option Redirect) := do
  let out := { p.inside with inOutput := true }
  let isBare := (← atSign "(") && (← peekAt? 1) = some (.sign ")")
  let args ← if isBare then do
      advance
      advance
      pure []
    else if endsOutput (← peek?) then pure []
    else separated (fun i => expression fuel (out.behind i)) fuel 0
  let isGroup (e : Expr) : Bool := e matches .group (_ :: _ :: _)
  if 1 < args.length && args.any isGroup then failHere
  let args := match args with
    | [.group members] => members
    | args => args
  if ← accept ">" then return (args, some (.file (← expression fuel p.inside)))
  else if ← accept ">>" then return (args, some (.append (← expression fuel p.inside)))
  else if ← accept "|" then return (args, some (.command (← expression fuel p.inside)))
  else return (args, none)

/-- A value that may be missing at the end of a statement. -/
def optional (fuel : Nat) (p : Place) : Reading (Option Expr) := do
  match ← peek? with
  | none | some .newline | some (.sign ";") | some (.sign "\x7d") => return none
  | _ => return some (← expression fuel p)

/-- Notes a jump that is in no loop; only the first one is told. -/
def noteJump (cause : Cause) : Reading Unit := do
  let isJump (f : SyntaxFault) : Bool := f.cause matches .outside _ "of loop"
  unless (← get).faults.any isJump do note cause

/-- A statement that holds no other, with its end. -/
def simple (fuel : Nat) (p : Place) : Reading Statement := do
  let p := p.inside
  let checked (s : Statement) (isRight : Bool) (cause : Cause) : Reading Statement := do
    finish
    unless isRight do note cause
    return s
  match ← peek? with
  | some (.keyword "print") =>
    advance
    let (args, redirect) ← output fuel p
    finish
    return .print args redirect
  | some (.keyword "printf") =>
    advance
    let (args, redirect) ← output fuel p
    checked (.printf args redirect) (!args.isEmpty) (.noArguments "printf")
  | some (.keyword "next") =>
    advance
    checked .next (p.inRecord && !p.inFunction) (.improper "next")
  | some (.keyword "nextfile") =>
    advance
    checked .nextFile (p.inRecord && !p.inFunction) (.improper "nextfile")
  | some (.keyword "exit") =>
    advance
    let code ← optional fuel p
    finish
    return .exit code
  | some (.keyword "return") =>
    advance
    let value ← optional fuel p
    checked (.give value) p.inFunction (.outside "return" "function body")
  | some (.keyword "break") =>
    advance
    finish
    unless p.inLoop do noteJump (.outside "break statement" "of loop")
    return .leave
  | some (.keyword "continue") =>
    advance
    finish
    unless p.inLoop do noteJump (.outside "continue statement" "of loop")
    return .again
  | some (.keyword "delete") =>
    advance
    let array ← tableName
    if ← accept "[" then
      let keys ← separated (fun i => expression fuel (p.behind i)) fuel 0
      expect "]"
      finish
      return .delete array (some keys)
    else
      finish
      return .delete array none
  | _ =>
    let e ← expression fuel p
    finish
    return .expr e

/-- Goes on behind a statement that was not understood. The fuel bounds the number of words. -/
def skipStatement : Nat → Reading Unit
  | 0 => throw .final
  | n + 1 => do
    match ← peek? with
    | none => throw .final
    | some (.sign "\x7d") => modify ({ · with brackets := 0, quiet := 0 })
    | some .newline | some (.sign ";") =>
      modify ({ · with brackets := 0, quiet := 0 })
      advance
    | _ =>
      advance
      skipStatement n

/-- Reads a statement, or goes on behind it. -/
def recovering (read : Reading Statement) : Reading Statement := do
  try read
  catch
  | .final => throw .final
  | .here =>
    skipStatement ((← get).rest.length + 1)
    return .block []

mutual

def statement : Nat → Place → Reading Statement
  | 0, _ => failHere
  | fuel + 1, p => recovering do
    match ← peek? with
    | some (.sign "\x7b") => block fuel p
    | some (.sign "\x7d") => return .block []
    | some (.sign ";") | some .newline =>
      advance
      return .block []
    | some (.keyword "if") =>
      advance
      let c ← condition fuel p
      let a ← statement fuel p
      if (← peek?) = some (.keyword "else") then
        advance
        return .branch c a (some (← statement fuel p))
      else return .branch c a none
    | some (.keyword "while") =>
      advance
      let c ← condition fuel p
      return .loop c (← statement fuel { p with inLoop := true })
    | some (.keyword "do") =>
      advance
      let body ← statement fuel { p with inLoop := true }
      return .loopOnce body (← untilWhen fuel p)
    | some (.keyword "for") =>
      advance
      expect "("
      match (← get).rest with
      | ⟨.name name, _⟩ :: ⟨.keyword "in", _⟩ :: ⟨.name array, _⟩ :: ⟨.sign ")", _⟩ :: _ =>
        advance
        advance
        advance
        usedAs .value name
        usedAs .table array
        expectClosing
        return .each name array (← statement fuel { p with inLoop := true })
      | _ => counted fuel p
    | _ => simple fuel p

/-- The condition behind the body of a loop. What is none counts for the body. -/
def untilWhen : Nat → Place → Reading Expr
  | 0, _ => failHere
  | fuel + 1, p => do
    let found : Option Expr ← try
        unless (← peek?) = some (.keyword "while") do failHere
        advance
        expect "("
        let c ← expression fuel p.inside
        expect ")"
        finish
        pure (some c)
      catch
      | .final => throw .final
      | .here => do
        skipStatement ((← get).rest.length + 1)
        if ← atSign "\x7d" then
          note (← faultHere)
          throw .final
        pure none
    match found with
    | some c => return c
    | none => untilWhen fuel p

/-- A loop with a start, a condition and a step, all of which may be missing. -/
def counted : Nat → Place → Reading Statement
  | 0, _ => failHere
  | fuel + 1, p => do
    let start ← if ← atSign ";" then pure none else pure (some (.expr (← expression fuel p.inside)))
    expect ";"
    let c ← if ← atSign ";" then pure none else pure (some (← expression fuel p.inside))
    expect ";"
    let step ← if ← atSign ")" then pure none else pure (some (.expr (← expression fuel p.inside)))
    expectClosing
    return .count start c step (← statement fuel { p with inLoop := true })

/-- A condition in brackets, and the end of its line. -/
def condition : Nat → Place → Reading Expr
  | 0, _ => failHere
  | fuel + 1, p => do
    expect "("
    let c ← expression fuel p.inside
    expectClosing
    return c

/-- Statements in braces. -/
def block : Nat → Place → Reading Statement
  | 0, _ => failHere
  | fuel + 1, p => do
    expect "\x7b"
    let body ← statements fuel p
    expect "\x7d"
    return .block body

def statements : Nat → Place → Reading (List Statement)
  | 0, _ => return []
  | fuel + 1, p => do
    match ← peek? with
    | some (.sign "\x7d") => return []
    | none => failHere
    | _ =>
      let first ← statement fuel p
      return first :: (← statements fuel p)

end

/-! ## Programs -/

/-- The names in the head of a function. One that is there already does not count. -/
def paramNames : Nat → List String → Reading (List String)
  | 0, done => return done
  | n + 1, done => do
    match ← peek? with
    | some (.name name) =>
      if name = "NF" || (!done.contains name && (← known? name).isSome) then failHere
      else
        advance
        if done.contains name then note (.duplicate name)
        let done := if done.contains name then done else done ++ [name]
        if ← accept "," then paramNames n done else return done
    | _ => failHere

/-- A function, from its name on. -/
def function (fuel : Nat) (p : Place) : Reading Function := do
  match ← peek? with
  | some (.name name) | some (.callee name) =>
    if name = "NF" then failHere
    advance
    let kind ← kindOf (.global name)
    if kind ≠ .unsettled then note (.illegal ((Symbol.global name).shown kind) name)
    match ← known? name with
    | some ⟨_, some _⟩ => note (.redefined name)
    | some _ => pure ()
    | none => modify fun d => { d with functions := d.functions ++ [⟨name, none⟩] }
    expect "("
    let params ← if ← atSign ")" then pure [] else paramNames (fuel + 1) []
    let kinds ← foretold name params.length
    expectClosing
    modify fun d => { d with
      callee := name
      params
      uses := kinds
      functions := d.functions.map fun f =>
        if f.name = name then { f with kinds := some kinds } else f }
    let body ← block fuel { p with inFunction := true, inRecord := false }
    modify ({ · with callee := "", params := [] })
    return ⟨name, params, body⟩
  | _ => failHere

def rule (fuel : Nat) (p : Place) : Reading Rule := do
  let body : Reading (Option Statement) := do
    match ← peek? with
    | some (.sign "\x7b") => return some (← block fuel { p with inRecord := true })
    | some (.sign ";") | some .newline =>
      advance
      return none
    | _ => failHere
  match ← peek? with
  | some (.keyword "BEGIN") =>
    advance
    return ⟨.atStart, some (← block fuel p)⟩
  | some (.keyword "END") =>
    advance
    return ⟨.atEnd, some (← block fuel p)⟩
  | some (.sign "\x7b") => return ⟨.all, ← body⟩
  | _ =>
    let first ← expression fuel p
    if ← accept "," then
      let last ← expression fuel p
      return ⟨.between first last, ← body⟩
    else return ⟨.those first, ← body⟩

/-- Goes on with the next block, which counts for nothing. -/
def skipRule (fuel : Nat) (p : Place) : Nat → Reading Unit
  | 0 => throw .final
  | n + 1 => do
    match ← peek? with
    | none => throw .final
    | some (.sign "\x7b") =>
      modify ({ · with callee := "", params := [] })
      let _ ← block fuel { p with inRecord := true }
    | _ =>
      advance
      skipRule fuel p n

/-- All rules and functions that are left. -/
def parts (fuel : Nat) (p : Place) : Nat → Program → Reading Program
  | 0, done => return done
  | n + 1, done => do
    match ← peek? with
    | none => return done
    | some first =>
      let found ← try
          if first = .keyword "function" then
            advance
            let f ← function fuel p
            pure { done with functions := done.functions ++ [f] }
          else
            let r ← rule fuel p
            pure { done with rules := done.rules ++ [r] }
        catch
        | .final => throw .final
        | .here => do
          skipRule fuel p ((← get).rest.length + 1)
          pure done
      parts fuel p n found

/-- The words of the texts that a program is in, and the place where they end. -/
def wordsIn (texts : List (Option String × Bytes)) : List Lexeme × Position :=
  let found := texts.flatMap fun (file, text) => wordsOf file text
  let ending := match texts.getLast? with
    | some (file, text) => ⟨file, text.count newline + 2⟩
    | none => ⟨none, 1⟩
  (found, ending)

/-- Reads a program from the texts that it is in; `settled` are the variables that have values already. -/
def Program.read (texts : List (Option String × Bytes)) (settled : List String) :
    Except (List SyntaxFault) Program :=
  let (found, ending) := wordsIn texts
  let draft : Draft :=
    { rest := []
      ending
      faults := []
      brackets := 0
      braces := 0
      quiet := 0
      globals := settled.map (fun name => (name, .value)) ++ ownNames
      callee := ""
      params := []
      uses := []
      functions := []
      pending := [] }
  let place : Place := ⟨false, false, false, false, 0⟩
  let fuel := 16 * found.length + 64
  let reading : Reading Program := do
    arrive false (dropNewlines found)
    let program ← parts fuel place (found.length + 1) ⟨[], [], []⟩
    if (← get).faults.isEmpty then resolve
    let tables := ((← get).globals.filter (·.2 = .table)).map (·.1)
    return { program with taken := program.functions.map (·.name) ++ tables }
  match reading.run draft with
  | .ok program d => if d.faults.isEmpty then .ok program else .error d.faults.reverse
  | .error _ d => .error d.faults.reverse

end Scratchpad.Shell.Awk
