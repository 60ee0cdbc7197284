import Scratchpad.Shell.Builtins

/-!
# Shells inside of shells

What becomes of a shell when something comes back to it: a shell inside of it, another program, a job,
a function, or an end of the redirections around a command.
-/

namespace Scratchpad.Shell

namespace State

/-- A shell inside another one comes back: what it wrote, read and changed among the files stays,
its variables do not. -/
def rejoin (outer inner : State) : State :=
  let back := { outer with
    input := inner.input
    inputs := inner.inputs
    files := outer.files.seenAs inner.files
    log := inner.log
    later := inner.later
    elapsedMs := inner.elapsedMs
    jobsEndMs := max outer.jobsEndMs inner.jobsEndMs
    pipes := inner.pipes
    turns := inner.turns
    alarm := inner.alarm
    defied := inner.defied }
  match inner.fate with
  | .stuck onward => { back with fate := .stuck onward }
  | .signalled n => { back with fate := .signalled n }
  | .exited code => back.withStatus code
  | _ => back.withStatus (inner.status % 256)

/-- A program that a signal has ended is told of, and its end is a status. -/
def buried (st : State) : State :=
  match st.fate with
  | .signalled n =>
    let st := { st with fate := .running }.withStatus (128 + n)
    match Builtins.obituary? n with
    | some text => st.write 2 (Bytes.ofString (text ++ "\n"))
    | none => st
  | _ => st

/-- The state in which a shell inside of this one starts: of the traps it keeps only what is to be
ignored. -/
def inside (st : State) : State :=
  { st with traps := st.traps.filter (·.2 = []), trapped := none, subshells := st.subshells + 1 }

/-- The state in which a job starts. -/
def asJob (st : State) : State :=
  { st.inside with input := .empty, inputFrom := none, log := [], later := [], jobs := [], jobsEndMs := 0 }

/-- A job in the background has run: what it writes comes later. -/
def launch (outer job : State) : State :=
  let number := (outer.jobs.head?.map (·.number)).getD 0 + 1
  let writings := (job.log.reverse ++ job.later).map fun w => { w with job := some number }
  let status := match job.fate with
    | .exited code => code
    | .signalled n => 128 + n
    | _ => job.status % 256
  let endMs := max job.elapsedMs job.jobsEndMs
  { outer with
    later := (outer.later ++ writings).mergeSort fun a b => a.atMs ≤ b.atMs
    files := outer.files.seenAs job.files
    pipes := job.pipes
    turns := job.turns
    jobs := ⟨number, status, job.elapsedMs⟩ :: outer.jobs
    jobsEndMs := max outer.jobsEndMs endMs
    fate := if job.fate matches .stuck _ then job.fate else outer.fate
    status := 0 }

/-- The deepest nesting of functions of the plain dialect. -/
def deepest : Nat := 1000

/-- The state in which a function starts. -/
def enterFunction (st : State) (name : List Char) (args : List (List Char)) (f : Routine) : State :=
  let calls := ⟨name, f.origin, st.line⟩ :: st.calls
  { st with args, locals := some [], loops := 0, depth := st.depth + 1, calls, origin := f.origin }

/-- A function comes back: its arguments and local variables are forgotten. -/
def leaveFunction (outer inner : State) : State :=
  let st := (inner.locals.getD []).foldl bringBack inner
  { st with
    args := outer.args
    locals := outer.locals
    loops := outer.loops
    depth := outer.depth
    calls := outer.calls
    origin := outer.origin
    fate := if inner.fate = .returning then .running else inner.fate }

/-- How the text is called in which functions are made now. -/
def homeOfFunctions (st : State) : List Char :=
  if st.origin ≠ st.name then st.origin
  else if st.has 'c' then "environment".toList
  else if st.has 's' then "main".toList
  else st.origin

/-- A line that is given up in the rich dialect ends no more than itself. -/
def recovered (st : State) : State :=
  if st.fate = .abandoned then { st with fate := .running } else st

/-- Ends a loop that is left, and goes on with one that is repeated; the flag says whether the loop goes
on. -/
def afterRound (st : State) : State × Bool :=
  match st.fate with
  | .running => (st, true)
  | .leaving n => ({ st with fate := if n ≤ 1 then .running else .leaving (n - 1) }, false)
  | .repeating n =>
    if n ≤ 1 then ({ st with fate := .running }, true) else ({ st with fate := .repeating (n - 1) }, false)
  | _ => (st, false)

/-- Takes rounds as long as the step says so. -/
def rounds (step : State → State × Bool) : Nat → State → State
  | 0, st => { st with fate := .stuck [] }
  | n + 1, st =>
    match step st with
    | (st, true) => rounds step n st
    | (st, false) => st

/-- Runs something inside of a loop. -/
def looping (st : State) (step : State → State) : State :=
  { step { st with loops := st.loops + 1 } with loops := st.loops }

/-- Runs something under the name of a command that runs others. -/
def calledBy (st : State) (who : String) (step : State → State) : State :=
  { step { st with caller := some who } with caller := st.caller }

/-- Keeps the names of programs that were found. -/
def remember (st : State) (name : List Char) : State :=
  if name.contains '/' || st.found.contains name then st else { st with found := name :: st.found }

/-- How a shell that a line ends for good ends. -/
def endFor (st : State) (text : String) : State :=
  let st := st.complain text
  { st with fate := .exited (if st.has 'c' then 127 else 1) }

end State

/-- A talkative shell shows a command before it runs it, with its settings in front; the rich dialect
shows each of them on a line of its own. -/
def trace (lead : List Char) (outer st : State) (settings : List (Setting Word)) (words : List (List Char)) :
    State :=
  let valueOf (name : List Char) : List Char := (st.get? name).getD []
  let line (words : List (List Char)) : List Char := lead ++ [' '].intercalate words ++ ['\n']
  let text :=
    if st.isRich then
      let shown (cs : List Char) : List Char := if cs = [] then [] else richlyShown cs
      let setting (s : Setting Word) : List Char :=
        match s.value with
        | .word _ => s.name ++ '=' :: shown (valueOf s.name)
        | .list _ => s.name ++ '=' :: '(' :: [' '].intercalate ((st.members s.name).map fun (_, cs) => richlyShown cs)
            ++ [')']
      settings.flatMap (fun s => line [setting s]) ++
        if words = [] then [] else line (words.map richlyShown)
    else line (settings.map (fun s => s.name ++ '=' :: valueOf s.name) ++ words)
  match outer.sink? 2 with
  | some sink => st.emit sink (ByteText.toBytes text)
  | none => st

end Scratchpad.Shell
