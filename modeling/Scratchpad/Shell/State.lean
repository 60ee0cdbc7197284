import Scratchpad.Shell.Program
import Scratchpad.Shell.Syntax

/-!
# The state of a shell

A shell holds variables, arguments and functions, the sinks of its output descriptors, what is left
of its input, and a log of all that was written so far. It runs until its fate is settled. A strict
shell ends when a command fails, unless the command is guarded, which is to say that its failure is
being asked about. Jobs in the background have run as soon as they start, but what they write takes
its place in the log only when its time has come.

A shell keeps the path by which it came to its working directory, the names of the programs that it
has found, and in a trap the status that it had before.

Options are known by their letters: `e` makes a shell strict, `u` wary of parameters that are not
set, `f` blind to wildcards, `x` talkative, `C` careful with files that are there, `a` open with all
its variables, and `n` idle.

A shell has only so many turns: one that goes on taking them is said never to end. When it runs for a
limited time, the alarm says when which signal comes to it, and it has defied the alarm once it went on
after that.
-/

namespace Scratchpad.Shell

open Files (Path System)

/-- Where an output descriptor leads. -/
inductive Sink
  | stdout
  | stderr
  | null
  | pipe (n : Nat)
  | file (path : Path)
deriving DecidableEq, Repr

/-- What became of a shell: it may go on, leave or repeat some loops around it, return from a
function, give up the line that it is in, have ended, or never end, in which case it may go on
writing for ever. -/
inductive Fate
  | running
  | leaving (loops : Nat)
  | repeating (loops : Nat)
  | returning
  | abandoned
  | exited (code : Nat)
  | signalled (signal : Nat)
  | stuck (onward : Bytes)
deriving DecidableEq, Repr

/-- Bytes that are written to a sink at some time, by a job or by the shell itself. -/
structure Writing where
  sink : Sink
  bytes : Bytes
  atMs : Nat
  job : Option Nat

/-- A job in the background: its number, the status it ends with, and when. -/
structure Job where
  number : Nat
  status : Nat
  endMs : Nat

/-- The process number of a job. The shell itself has the one in front of the first. -/
def Job.pid (job : Job) : List Char :=
  Nat.toDigits 10 (2 + job.number)

/-- A variable that holds a list: its members have keys, which are numbers in order unless the list is
keyed. -/
structure Listing where
  keyed : Bool
  items : List (List Char × List Char)

/-- A function, what the text is called that it comes from, and that text from its body on. -/
structure Routine where
  body : Command
  origin : List Char
  written : List Char

/-- A function that runs, or a text that is read: its name, what the text is called that it comes from,
and the line in which it was called. -/
structure Calling where
  name : List Char
  origin : List Char
  line : Nat

/-- What was known of a variable, to be brought back. -/
structure Saved where
  name : List Char
  value : Option (List Char)
  listing : Option Listing
  traits : List (List Char × Char)
  exported : Bool
  frozen : Bool

structure State where
  dialect : Dialect
  name : List Char
  origin : List Char
  caller : Option String
  args : List (List Char)
  vars : List (List Char × List Char)
  lists : List (List Char × Listing)
  traits : List (List Char × Char)
  exported : List (List Char)
  frozen : List (List Char)
  aliases : List (List Char × List Char)
  functions : List (List Char × Routine)
  shared : List (List Char)
  calls : List Calling
  subshells : Nat
  levels : Nat
  disabled : List String
  documents : List (Nat × Word)
  serial : Nat
  status : Nat
  statuses : List Nat
  fate : Fate
  input : Flow
  inputFrom : Option Nat
  inputs : List (Nat × Flow)
  files : System
  here : List Char
  found : List (List Char)
  fds : List (Nat × Sink)
  log : List Writing
  later : List Writing
  startedAt : Int
  elapsedMs : Nat
  jobs : List Job
  jobsEndMs : Nat
  traps : List (Nat × List Char)
  trapped : Option Nat
  locals : Option (List Saved)
  pipes : Nat
  line : Nat
  readLine : Nat
  substituted : Option Nat
  options : List Char
  manners : List String
  optionAt : Nat × Nat
  guarded : Bool
  loops : Nat
  depth : Nat
  turns : Nat
  niceness : Int := 0
  alarm : Option (Nat × Nat) := none
  defied : Bool := false

namespace State

def isRunning (st : State) : Bool :=
  st.fate = .running

def isRich (st : State) : Bool :=
  st.dialect = .rich

/-- The name behind names that only refer to others. The fuel bounds how many there are. -/
def aim (st : State) (name : List Char) : List Char :=
  if st.traits.isEmpty then name else follow 8 name
where
  follow : Nat → List Char → List Char
    | 0, name => name
    | fuel + 1, name =>
      if st.traits.contains (name, 'n') then
        match st.vars.lookup name with
        | some target => if target = [] then name else follow fuel target
        | none => name
      else name

/-- What a variable holds; of a list, its first member. -/
def get? (st : State) (name : List Char) : Option (List Char) :=
  let name := st.aim name
  match st.vars.lookup name with
  | some value => some value
  | none => (st.lists.lookup name).bind fun l => l.items.lookup ['0']

def has (st : State) (option : Char) : Bool :=
  st.options.contains option

def hasTrait (st : State) (name : List Char) (trait : Char) : Bool :=
  st.traits.contains (name, trait)

def set (st : State) (name value : List Char) : State :=
  { st with
    vars := (name, value) :: st.vars.filter (·.1 ≠ name)
    exported := if st.has 'a' && !st.exported.contains name then name :: st.exported
      else st.exported }

def setList (st : State) (name : List Char) (l : Listing) : State :=
  { st with
    vars := st.vars.filter (·.1 ≠ name)
    lists := (name, l) :: st.lists.filter (·.1 ≠ name) }

def expose (st : State) (name : List Char) : State :=
  if st.exported.contains name then st else { st with exported := name :: st.exported }

/-- The variables that programs are given. -/
def environment (st : State) : List (List Char × List Char) :=
  st.vars.filter fun (name, _) => st.exported.contains name

/-- What is known of a variable. -/
def save (st : State) (name : List Char) : Saved :=
  ⟨name, st.vars.lookup name, st.lists.lookup name, st.traits.filter (·.1 = name),
    st.exported.contains name, st.frozen.contains name⟩

/-- Makes a variable what it was before. -/
def bringBack (st : State) (s : Saved) : State :=
  let vars := st.vars.filter (·.1 ≠ s.name)
  let lists := st.lists.filter (·.1 ≠ s.name)
  let others (names : List (List Char)) : List (List Char) := names.filter (· ≠ s.name)
  { st with
    vars := match s.value with
      | some value => (s.name, value) :: vars
      | none => vars
    lists := match s.listing with
      | some l => (s.name, l) :: lists
      | none => lists
    traits := s.traits ++ st.traits.filter (·.1 ≠ s.name)
    exported := if s.exported then s.name :: others st.exported else others st.exported
    frozen := if s.frozen then s.name :: others st.frozen else others st.frozen }

def unset (st : State) (name : List Char) : State :=
  { st with
    vars := st.vars.filter (·.1 ≠ name)
    lists := st.lists.filter (·.1 ≠ name)
    traits := st.traits.filter (·.1 ≠ name)
    exported := st.exported.filter (· ≠ name) }

def withStatus (st : State) (status : Nat) : State :=
  { st with status }

def sink? (st : State) (fd : Nat) : Option Sink :=
  st.fds.lookup fd

def setSink (st : State) (fd : Nat) (sink : Option Sink) : State :=
  let others := st.fds.filter (·.1 ≠ fd)
  { st with fds := match sink with
      | some s => (fd, s) :: others
      | none => others }

/-- Lets the jobs write what was due before now. -/
def catchUp (st : State) : State :=
  match st.later with
  | [] => st
  | later =>
    let (due, later) := later.partition (·.atMs < st.elapsedMs)
    { st with log := due.reverse ++ st.log, later }

/-- Waits for all jobs. -/
def awaitJobs (st : State) : State :=
  { st with
    log := st.later.reverse ++ st.log
    later := []
    elapsedMs := max st.elapsedMs st.jobsEndMs }

/-- Waits for one job. -/
def awaitJob (st : State) (job : Job) : State :=
  let now := max st.elapsedMs job.endMs
  let (due, later) := st.later.partition fun w => w.atMs < now || w.job = some job.number
  { st with log := due.reverse ++ st.log, later, elapsedMs := now, status := job.status }

/-- The files at the time that it is now. -/
def filesNow (st : State) : System :=
  { st.files with now := st.startedAt + st.elapsedMs * 1000000 }

/-- Writes to a sink. -/
def emit (st : State) (sink : Sink) (bytes : Bytes) : State :=
  match sink with
  | .null => st
  | .file path =>
    match st.filesNow.writeWith path (· ++ bytes) with
    | .ok files => { st with files }
    | .error _ => st
  | sink =>
    if bytes = [] then st
    else
      let st := st.catchUp
      { st with log := ⟨sink, bytes, st.elapsedMs, none⟩ :: st.log }

/-- Writes to a descriptor; what is written to a closed one is lost. -/
def write (st : State) (fd : Nat) (bytes : Bytes) : State :=
  match st.sink? fd with
  | some sink => st.emit sink bytes
  | none => st

/-- Runs a step guarded. -/
def guard (st : State) (step : State → State) : State :=
  { step { st with guarded := true } with guarded := st.guarded }

/-- What a strict shell does after a command. -/
def check (st : State) : State :=
  if st.has 'e' && !st.guarded && st.status ≠ 0 && st.isRunning then
    { st with fate := .exited st.status }
  else st

/-- What is written to a sink until all jobs are done, in order. -/
def written (st : State) (sink : Sink) : Bytes :=
  ((st.later.reverse ++ st.log).foldl (fun (acc : List Bytes) w =>
    if w.sink = sink then w.bytes :: acc else acc) []).flatten

/-- Forgets what is written to a sink. -/
def forget (st : State) (sink : Sink) : State :=
  { st with log := st.log.filter (·.sink ≠ sink), later := st.later.filter (·.sink ≠ sink) }

/-- One turn less; without any left the shell does not end. -/
def turn (st : State) : State :=
  match st.turns with
  | 0 => { st with fate := .stuck [] }
  | turns + 1 => { st with turns }

/-- The program that a name stands for. -/
def program (st : State) (name : String) : Except Files.Error (Program × String) :=
  Program.lookUp st.files (ByteText.shown ((st.get? "PATH".toList).getD "/bin:/usr/bin".toList)) name

/-! ## Complaints -/

/-- What a complaint begins with: the name of the shell, or of the text that a function comes from,
and the line. -/
def lead (st : State) : String :=
  match st.dialect with
  | .plain => ByteText.shown st.name ++ ": " ++ st.line.repr ++ ": "
  | .rich => ByteText.shown st.origin ++ ": line " ++ st.line.repr ++ ": "

/-- A complaint of a command that is built in. -/
def complain (st : State) (text : String) : State :=
  st.write 2 (Bytes.ofString (st.lead ++ text ++ "\n"))

/-- A complaint of the shell itself, which is put in the mouth of the command that runs others. -/
def object (st : State) (text : String) : State :=
  st.complain (match st.caller with
    | some who => if st.isRich then text else who ++ ": " ++ text
    | none => text)

/-- A fault of a command, which ends the shell of the plain dialect if the command is a special one. -/
def abort (st : State) (text : String) : State :=
  { st.complain text with fate := .abandoned, status := 2 }

/-- A fault that the shell itself finds. -/
def collapse (st : State) (text : String) : State :=
  { st.object text with fate := .abandoned, status := 2 }

/-- A complaint of the rich dialect about an expansion: the line is given up. -/
def giveUp (st : State) (text : String) : State :=
  { st.complain text with fate := .abandoned, status := 1 }

def frozenText (name : List Char) : String :=
  ByteText.shown name ++ ": is read only"

/-- The process number that a shell has for itself; its jobs have the next ones. -/
def pid : List Char := ['2']

/-- The characters that part fields. -/
def separators (st : State) : List Char :=
  (st.get? ['I', 'F', 'S']).getD [' ', '\t', '\n']

/-- What joins arguments that become one text. -/
def joint (st : State) : List Char :=
  match st.get? ['I', 'F', 'S'] with
  | some cs => cs.take 1
  | none => [' ']

/-- Does the shell know groups of patterns? -/
def knowsGroups (st : State) : Bool :=
  st.manners.contains "extglob"

/-- The built-in commands among some that are in use. -/
def enabled (st : State) (names : List String) : List String :=
  if st.disabled.isEmpty then names else names.filter (!st.disabled.contains ·)

/-- The letters of all options, in the order in which they are shown. -/
def optionLetters : List Char :=
  ['u', 'b', 'a', 'C', 'E', 'V', 'v', 'x', 's', 'n', 'm', 'i', 'I', 'f', 'e']

/-- The letters in the rich dialect; some are always on. -/
def richLetters : List Char :=
  ['a', 'b', 'e', 'f', 'h', 'k', 'm', 'n', 'p', 't', 'u', 'v', 'x', 'B', 'C', 'E', 'H', 'P', 'T',
    'c', 's']

def shownOptions (st : State) : List Char :=
  (if st.isRich then richLetters else optionLetters).filter st.has

/-- The time that it is, in billionths of a second. -/
def nowNs (st : State) : Int :=
  st.startedAt + st.elapsedMs * 1000000

/-- Options of the rich dialect with long names, in order, and the letters that stand for them. -/
def longOptions : List (String × Option Char) :=
  [("allexport", some 'a'), ("braceexpand", some 'B'), ("emacs", none), ("errexit", some 'e'),
    ("errtrace", some 'E'), ("functrace", some 'T'), ("hashall", some 'h'), ("histexpand", some 'H'),
    ("history", none), ("ignoreeof", none), ("interactive-comments", some '#'),
    ("keyword", some 'k'), ("monitor", some 'm'), ("noclobber", some 'C'), ("noexec", some 'n'),
    ("noglob", some 'f'), ("nolog", none), ("notify", some 'b'), ("nounset", some 'u'),
    ("onecmd", some 't'), ("physical", some 'P'), ("pipefail", some '|'), ("posix", some '^'),
    ("privileged", some 'p'), ("verbose", some 'v'), ("vi", none), ("xtrace", some 'x')]

/-- Texts in order, with colons between them. -/
def colons (names : List String) : List Char :=
  (":".intercalate (names.mergeSort fun a b => !(b < a))).toList

/-- What the shell of the rich dialect keeps in variables of its own. -/
def kept? (st : State) (name : List Char) : Option (List Char) :=
  if !(name.head?.any Char.isUpper) then none
  else
    match String.ofList name with
    | "LINENO" => some (Nat.toDigits 10 st.line)
    | "PIPESTATUS" => some (Nat.toDigits 10 (st.statuses.headD 0))
    | "SECONDS" => some (Nat.toDigits 10 (st.elapsedMs / 1000))
    | "BASHPID" => some pid
    | "BASH_SUBSHELL" => some (Nat.toDigits 10 st.subshells)
    | "BASHOPTS" => some (colons st.manners)
    | "SHELLOPTS" =>
      some (colons ((longOptions.filter fun (_, letter) => letter.any st.has).map (·.1)))
    | "EPOCHSECONDS" => some (toString (st.nowNs / 1000000000)).toList
    | "EPOCHREALTIME" =>
      let digits := Nat.toDigits 10 (st.nowNs % 1000000000 / 1000).toNat
      some ((toString (st.nowNs / 1000000000)).toList ++
        '.' :: List.replicate (6 - digits.length) '0' ++ digits)
    | "RANDOM" => some (Nat.toDigits 10 ((st.turns * 25173 + st.log.length * 13849) % 32768))
    | "SRANDOM" => some (Nat.toDigits 10 ((st.turns * 1103515245 + st.log.length * 13849) % 4294967296))
    | _ => none

/-- The lists that the shell of the rich dialect keeps: what the stages of the last pipeline ended with,
and which functions run, where they were called and where they come from. -/
def keptList? (st : State) (name : List Char) : Option (List (List Char)) :=
  if !(name.head?.any Char.isUpper) then none
  else
    match String.ofList name with
    | "PIPESTATUS" => some (st.statuses.map (Nat.toDigits 10 ·))
    | "FUNCNAME" => if st.locals.isNone then none else some (st.calls.map (·.name))
    | "BASH_SOURCE" => some (st.calls.map (·.origin))
    | "BASH_LINENO" => some (st.calls.map fun c => Nat.toDigits 10 c.line)
    | "GROUPS" => some [['0']]
    | _ => none

/-- The value of a parameter, unless it stands for all arguments. -/
def parameter? (st : State) (name : List Char) : Option (List Char) :=
  match name with
  | ['#'] => some (Nat.toDigits 10 st.args.length)
  | ['?'] => some (Nat.toDigits 10 st.status)
  | ['$'] => some pid
  | ['!'] =>
    match st.jobs with
    | job :: _ => some job.pid
    | [] => if st.isRich then none else some []
  | ['-'] => some st.shownOptions
  | ['@'] => if st.args = [] then none else some ([' '].intercalate st.args)
  | ['*'] => if st.args = [] then none else some (st.joint.intercalate st.args)
  | name =>
    match (if name.head?.any Char.isDigit then Tools.decimal? name else none) with
    | some 0 => some st.name
    | some n => st.args[n - 1]?
    | none =>
      if st.isRich then
        match st.kept? name with
        | some text => some text
        | none =>
          match st.keptList? name with
          | some texts => texts.head?
          | none => st.get? name
      else st.get? name

/-- What the alarm does to a shell that is told what to do then, after a tool that started at some time:
the tool is struck as well, unless both ignore the signal. -/
def alarmed (st : State) (startMs : Nat) : State :=
  match st.alarm with
  | none => st
  | some (atMs, signal) =>
    if st.elapsedMs < atMs || atMs < startMs then st
    else
      match st.traps.lookup signal with
      | none => st
      | some [] => { st with alarm := none, defied := true }
      | some _ =>
        { st with
          alarm := none
          defied := true
          elapsedMs := atMs
          status := 128 + signal
          fate := .signalled signal }

/-- Takes what a tool did into the state. -/
def absorb (st : State) (d : Deed) : State :=
  let st := d.writes.foldl (fun (st : State) (outlet, bytes) =>
    st.write (if outlet = .out then 1 else 2) bytes)
    { st with input := d.unread, files := d.files.getD st.files }
  match d.code with
  | some code => { st with status := code, elapsedMs := st.elapsedMs + d.lastsMs }.alarmed st.elapsedMs
  | none =>
    { st with fate := .stuck (match st.sink? 1 with
        | some (.pipe _) => d.onward
        | _ => []) }

/-- What a tool says that finds its input shut, its exit code, and whether it writes even so. -/
def shutText (name : String) : String × Nat × Bool :=
  let twice := name ++ ": -: Bad file descriptor\n" ++ name ++ ": -: Bad file descriptor"
  let summed := name ++ ": -: Bad file descriptor\n" ++ name ++ ": standard input: Bad file descriptor"
  let once := name ++ ": -: Bad file descriptor"
  let failing := name ++ ": read error: Bad file descriptor"
  match name with
  | "cat" => (once ++ "\ncat: closing standard input: Bad file descriptor", 1, false)
  | "head" => ("head: error reading 'standard input': Bad file descriptor\n" ++ once, 1, false)
  | "tail" => ("tail: cannot fstat 'standard input': Bad file descriptor\n" ++ once, 1, false)
  | "wc" => ("wc: 'standard input': Bad file descriptor\n" ++ once, 1, true)
  | "od" =>
    ("od: 'standard input': Bad file descriptor\nod: standard input: Bad file descriptor", 1, true)
  | "sort" => ("sort: stat failed: -: Bad file descriptor", 2, false)
  | "tr" | "base64" | "base32" | "join" | "shuf" => (failing, 1, false)
  | "sed" => ("sed: read error on stdin: Bad file descriptor", 4, false)
  | "grep" | "egrep" | "fgrep" => (name ++ ": (standard input): Bad file descriptor", 2, false)
  | "dd" =>
    ("dd: error reading 'standard input': Bad file descriptor\n" ++
      "dd: closing input file 'standard input': Bad file descriptor", 1, false)
  | "tee" => (failing ++ "\ntee: standard input: Bad file descriptor", 1, false)
  | "uniq" => ("uniq: error reading '-': Bad file descriptor", 1, false)
  | "tac" => ("tac: 'standard input': read error: Bad file descriptor\n" ++ once, 1, false)
  | "md5sum" | "sha1sum" | "sha224sum" | "sha256sum" | "sha384sum" | "sha512sum" | "b2sum" | "cksum"
  | "sum" => (summed, 1, false)
  | "nl" | "paste" | "cut" | "fold" | "expand" | "unexpand" => (twice, 1, false)
  | "factor" | "numfmt" => (name ++ ": error reading input: Bad file descriptor", 1, false)
  | "tsort" => ("tsort: -: read error: Bad file descriptor", 1, false)
  | "cmp" | "diff" => (once, 2, false)
  | name => (name ++ ": -: Bad file descriptor", 1, false)

/-- Runs a tool. One that reads an input that is shut fails. -/
def runTool (st : State) (name : String) (tool : Tool) (args : List (List Char)) : State :=
  let exposed := st.environment.map fun (name, value) => (ByteText.shown name, ByteText.shown value)
  let deed := tool ⟨args.map ByteText.shown, st.input, st.filesNow, exposed⟩
  if st.input.isShut && !deed.unread.isShut then
    let (said, code, writes) := shutText name
    let told : Outlet × Bytes := (.err, Bytes.ofString (said ++ "\n"))
    st.absorb { deed with
      writes := told :: (if writes then deed.writes else [])
      code := some code
      unread := .shut }
  else st.absorb deed

end State
end Scratchpad.Shell
