import Scratchpad.Shell.Builtins.Basic

/-!
# Signals and jobs

Sending signals, saying what is done at them, and waiting for jobs. The only processes that a shell
knows are itself, its group and its jobs. Beside the signals there are occasions at which something may
be done: the end of the shell, and in the rich dialect the failure of a command.
-/

namespace Scratchpad.Shell.Builtins

/-- The signals in front of those that have no names of their own. -/
def namedSignals : List (String × Nat) :=
  [("HUP", 1), ("INT", 2), ("QUIT", 3), ("ILL", 4), ("TRAP", 5), ("ABRT", 6),
    ("BUS", 7), ("FPE", 8), ("KILL", 9), ("USR1", 10), ("SEGV", 11), ("USR2", 12), ("PIPE", 13),
    ("ALRM", 14), ("TERM", 15), ("STKFLT", 16), ("CHLD", 17), ("CONT", 18), ("STOP", 19),
    ("TSTP", 20), ("TTIN", 21), ("TTOU", 22), ("URG", 23), ("XCPU", 24), ("XFSZ", 25),
    ("VTALRM", 26), ("PROF", 27), ("WINCH", 28), ("IO", 29), ("PWR", 30), ("SYS", 31)]

/-- The signals that are counted from either end of their range. -/
def countedSignals : List (String × Nat) :=
  (List.range 16).map (fun i => ("RTMIN" ++ (if i = 0 then "" else "+" ++ i.repr), 34 + i)) ++
    (List.range 15).map fun i =>
      ("RTMAX" ++ (if i = 14 then "" else "-" ++ (14 - i).repr), 50 + i)

def signals : List (String × Nat) :=
  namedSignals ++ [("32", 32), ("33", 33)] ++ countedSignals

/-- The occasion of a command that fails. -/
def failure : Nat := 66

/-- Occasions that are no signals. -/
def occasions (rich : Bool) : List (String × Nat) :=
  ("EXIT", 0) :: if rich then [("DEBUG", 65), ("ERR", failure), ("RETURN", 67)] else []

/-- The number of a signal that is named in letters of either case, in the rich dialect perhaps with
`SIG` in front. -/
def signalNamed? (rich occasional : Bool) (cs : List Char) : Option Nat :=
  let name := cs.map Char.toUpper
  let name := if rich && ['S', 'I', 'G'].isPrefixOf name then name.drop 3 else name
  (if occasional then occasions rich ++ signals else signals).lookup (String.ofList name)

def signal? (rich occasional : Bool) (cs : List Char) : Option Nat :=
  match Tools.decimal? cs with
  | some n => if n < 65 then some n else none
  | none => signalNamed? rich occasional cs

/-- How an occasion or a signal is shown. -/
def signalName (rich : Bool) (n : Nat) : String :=
  match (occasions rich).find? fun (_, m) => m = n with
  | some (name, _) => name
  | none =>
    match signals.find? fun (_, m) => m = n with
    | some (name, _) => if rich then "SIG" ++ name else name
    | none => n.repr

/-! ## Sending -/

/-- What a signal does to a shell that gets it. -/
def strike (signal : Nat) (st : State) : State :=
  if st.traps.lookup signal = some [] then st.withStatus 0
  else if [0, 17, 18, 23, 28].contains signal then st.withStatus 0
  else if [19, 20, 21, 22].contains signal then { st with fate := .stuck [] }
  else { st with fate := .signalled signal }

/-- Ends a job. -/
def strikeJob (n : Nat) (st : State) (job : Job) : State :=
  if n = 0 || job.endMs ≤ st.elapsedMs then st.withStatus 0
  else
    { st with
      later := st.later.filter fun w => w.atMs ≤ st.elapsedMs || w.job ≠ some job.number
      jobs := st.jobs.map fun j =>
        if j.number = job.number then { j with status := 128 + n, endMs := st.elapsedMs } else j
      jobsEndMs := (st.jobs.filter (·.number ≠ job.number)).foldl (fun t j => max t j.endMs)
        st.elapsedMs
      status := 0 }

/-- The job of a process number, or of a number behind a percent sign. -/
def jobOf? (st : State) (target : List Char) : Option Job :=
  match target with
  | '%' :: r =>
    if r = [] || r = ['%'] || r = ['+'] then st.jobs.head?
    else st.jobs.find? fun job => some job.number = Tools.decimal? r
  | target => st.jobs.find? fun job => some job.pid = (Tools.decimal? target).map (Nat.toDigits 10)

/-- Signals one target; a failure is kept as the status of the command. -/
def killOne (n : Nat) (st : State) (target : List Char) : State :=
  let before := st.status
  let failing (st : State) : State := st.withStatus (max before 1)
  if !st.isRunning then st
  else
    match jobOf? st target, target with
    | some job, _ => (strikeJob n st job).withStatus before
    | none, '%' :: _ =>
      if st.isRich then failing (st.complain ("kill: " ++ ByteText.shown target ++ ": no such job"))
      else (st.complain ("kill: No such job: " ++ ByteText.shown target)).withStatus 2
    | none, _ =>
      if target = State.pid || target = ['0'] || target = '-' :: State.pid then strike n st
      else if (integer? target).isNone then
        if st.isRich then
          failing (st.complain ("kill: " ++ ByteText.shown target ++
            ": arguments must be process or job IDs"))
        else
          (st.complain ("kill: Illegal number: " ++
            ByteText.shown (if target.head? = some '-' then target.drop 1 else target))).withStatus 2
      else if st.isRich then
        failing (st.complain ("kill: (" ++ ByteText.shown target ++ ") - No such process"))
      else failing (st.complain "kill: No such process\n")

def killAll (n : Nat) (targets : List (List Char)) (st : State) : State :=
  targets.foldl (fun st target => if st.status = 2 then st else killOne n st target) (st.withStatus 0)

def killUsage : State → State := fun st =>
  if st.isRich then
    misused "kill" "" ("kill [-s sigspec | -n signum | -sigspec] pid | jobspec ... or " ++
      "kill -l [sigspec]") st
  else
    fails "kill" ("Usage: kill [-s sigspec | -signum | -sigspec] [pid | job]... or\n" ++
      "kill -l [exitstatus]") 2 st

/-- Lists the signals, or translates the status of a command that one has ended. -/
def listSignals (args : List (List Char)) (st : State) : State :=
  match args with
  | [] =>
    sayText "kill" ("0\n" ++ String.join (signals.map fun (name, _) => name ++ "\n")) 0 st
  | arg :: _ =>
    withNumber "kill" arg st fun n =>
      let n := if 128 < n then n - 128 else n
      match signals.find? fun (_, m) => m = n with
      | some (name, _) => sayText "kill" (name ++ "\n") 0 st
      | none => fails "kill" ("invalid signal number or exit status: " ++ ByteText.shown arg) 2 st

/-- The names of all signals in columns. -/
def signalTable : String :=
  let shown := (namedSignals ++ countedSignals).map fun (name, n) =>
    Tools.padLeft 2 n.repr ++ ") SIG" ++ name
  let rows (cells : List (String × Nat)) : String :=
    String.join (cells.map fun (cell, i) =>
      cell ++ (if i % 5 = 4 then "\n" else "\t"))
  rows shown.zipIdx ++ "\n"

def listRich (args : List (List Char)) (st : State) : State :=
  match args with
  | [] => sayText "kill" signalTable 0 st
  | args =>
    args.foldl (fun (st : State) arg =>
      match Tools.decimal? arg with
      | some n =>
        let m := if 128 < n then n - 128 else n
        match (("EXIT", 0) :: signals).find? fun (_, k) => k = m with
        | some (name, _) => st.write 1 (Bytes.ofString (name ++ "\n"))
        | none => fails "kill" (ByteText.shown arg ++ ": invalid signal specification") 1 st
      | none =>
        match signalNamed? true true arg with
        | some n => st.write 1 (Bytes.ofString (n.repr ++ "\n"))
        | none => fails "kill" (ByteText.shown arg ++ ": invalid signal specification") 1 st)
      (st.withStatus 0)

def killRich : Builtin := fun args st =>
  let unknown (text : List Char) : State :=
    fails "kill" (ByteText.shown text ++ ": invalid signal specification") 1 st
  let send (text : List Char) (targets : List (List Char)) : State :=
    match signal? true true text, targets with
    | none, _ => unknown text
    | some _, [] => killUsage st
    | some n, targets => killAll n targets st
  match args with
  | [] => killUsage st
  | ['-', 'l'] :: rest | ['-', 'L'] :: rest => listRich rest st
  | ['-', 's'] :: [] | ['-', 'n'] :: [] =>
    fails "kill" (ByteText.shown (args.headD []) ++ ": option requires an argument") 1 st
  | ['-', 's'] :: name :: rest | ['-', 'n'] :: name :: rest => send name rest
  | ['-', '-'] :: rest => send ['1', '5'] rest
  | ('-' :: cs) :: rest => send cs rest
  | rest => send ['1', '5'] rest

def killPlain : Builtin := fun args st =>
  match args with
  | [] => killUsage st
  | ('-' :: cs) :: rest =>
    match signal? false false cs with
    | some n => if rest = [] then killUsage st else killAll n rest st
    | none =>
      reading "kill" false "ls:" "" args st fun found rest =>
        let named := (found.filter fun (c, _) => c = 's').map (·.2)
        match named.find? fun text => (signal? false false text).isNone with
        | some text =>
          fails "kill" ("invalid signal number or name: " ++ ByteText.shown text) 2 st
        | none =>
          if asked found 'l' then
            if named ≠ [] && rest = [] then killUsage st else listSignals rest st
          else if rest = [] then killUsage st
          else killAll ((named.getLast?.bind (signal? false false)).getD 15) rest st
  | rest => killAll 15 rest st

def kill : Builtin := fun args st =>
  if st.isRich then killRich args st else killPlain args st

/-! ## Traps -/

def sortedTraps (st : State) : List (Nat × List Char) :=
  st.traps.mergeSort fun a b => a.1 ≤ b.1

/-- The traps as the commands that set them. -/
def showTraps (traps : List (Nat × List Char)) (st : State) : State :=
  (st.write 1 (traps.flatMap fun (n, action) =>
    ByteText.toBytes ("trap -- ".toList ++
      (if st.isRich then richlyQuoted action else singlyQuoted action) ++
      ' ' :: (signalName st.isRich n).toList ++ ['\n']))).withStatus 0

/-- Sets a trap, or takes it away. -/
def setTrap (action : Option (List Char)) (n : Nat) (st : State) : State :=
  let others := st.traps.filter (·.1 ≠ n)
  { st with traps := match action with
      | some action => if action = ['-'] then others else (n, action) :: others
      | none => others }

/-- Sets traps up to a name that is unknown. -/
def setTraps (action : Option (List Char)) : List (List Char) → State → State
  | [], st => st.withStatus 0
  | name :: rest, st =>
    match signal? false true name with
    | some n => setTraps action rest (setTrap action n st)
    | none =>
      (st.write 2 (ByteText.toBytes ("trap: ".toList ++ name ++ ": bad trap\n".toList))).withStatus 1

def trapPlain : Builtin := fun args st =>
  reading "trap" true "" "" args st fun _ rest =>
    match rest with
    | [] => showTraps (sortedTraps st) st
    | first :: names =>
      if names = [] || ((Tools.decimal? first).any (· < 65)) then setTraps none rest st
      else setTraps (some first) names st

def trapRich : Builtin := fun args st =>
  let usage := "trap [-lp] [[arg] signal_spec ...]"
  match args with
  | ('-' :: c :: _) :: _ =>
    if c = 'l' || c = 'p' || c = '-' then
      reading "trap" true "lp" usage args st fun found rest =>
        if asked found 'l' then sayText "trap" signalTable 0 st
        else if asked found 'p' then
          let wanted := rest.filterMap (signal? true true)
          showTraps ((sortedTraps st).filter fun (n, _) => rest = [] || wanted.contains n) st
        else setting usage rest st
    else misused "trap" ("-" ++ String.singleton c ++ ": invalid option") usage st
  | args => setting usage args st
where
  setting (usage : String) (args : List (List Char)) (st : State) : State :=
    match args with
    | [] => showTraps (sortedTraps st) st
    | [one] =>
      match signal? true true one with
      | some n => (setTrap none n st).withStatus 0
      | none => misused "trap" "" usage st
    | first :: rest =>
      let (action, names) :=
        if (Tools.decimal? first).any (· < 65) then (none, first :: rest) else (some first, rest)
      names.foldl (fun (st : State) name =>
        match signal? true true name with
        | some n => setTrap action n st
        | none => fails "trap" (ByteText.shown name ++ ": invalid signal specification") 1 st)
        (st.withStatus 0)

/-- Sets what is done at signals and at the end: the first argument, or what is usual if that is a
dash. -/
def trap : Builtin := fun args st =>
  if st.isRich then trapRich args st else trapPlain args st

/-! ## Jobs -/

/-- Waits for jobs, and asks for the status of the last of them. -/
def wait : Builtin := fun args st =>
  reading "wait" false (if st.isRich then "fnp:" else "") "wait [-fn] [-p var] [id ...]" args st
    fun found rest =>
      if rest = [] then
        if asked found 'n' then
          match st.jobs.reverse.find? fun job => st.elapsedMs ≤ job.endMs with
          | some job => st.awaitJob job
          | none => st.awaitJobs.withStatus 127
        else st.awaitJobs.withStatus 0
      else
        rest.foldl (fun (st : State) target =>
          match jobOf? st target, target with
          | some job, _ => st.awaitJob job
          | none, '%' :: _ =>
            if st.isRich then fails "wait" (ByteText.shown target ++ ": no such job") 127 st
            else fails "wait" ("No such job: " ++ ByteText.shown target) 2 st
          | none, _ =>
            if (Tools.decimal? target).isSome then
              if st.isRich then
                fails "wait" ("pid " ++ ByteText.shown target ++ " is not a child of this shell") 127 st
              else st.withStatus 127
            else if st.isRich then
              fails "wait" ("`" ++ ByteText.shown target ++ "': not a pid or valid job spec") 1 st
            else fails "wait" ("Illegal number: " ++ ByteText.shown target) 2 st) st

/-- Brings a job to the front, or sends it to the back; a shell without a terminal has no means to. -/
def resume (name : String) : Builtin := fun args st =>
  if st.isRich then fails name "no job control" 1 st
  else
    match args with
    | [] =>
      if st.jobs = [] then fails name "No current job" 2 st
      else fails name "job %1 not created under job control" 2 st
    | arg :: _ =>
      match jobOf? st arg with
      | some _ => fails name ("job " ++ ByteText.shown arg ++ " not created under job control") 2 st
      | none => fails name ("No such job: " ++ ByteText.shown arg) 2 st

/-- Lists the jobs; those of a shell without a terminal are not shown. -/
def jobs : Builtin := fun args st =>
  reading "jobs" false (if st.isRich then "lnprs" else "lp")
    "jobs [-lnprs] [jobspec ...] or jobs -x command [args]" args st fun found rest =>
      match rest.find? fun arg => (jobOf? st arg).isNone with
      | some arg =>
        if st.isRich then fails "jobs" (ByteText.shown arg ++ ": no such job") 1 st
        else fails "jobs" ("No such job: " ++ ByteText.shown arg) 2 st
      | none =>
        let running := st.jobs.reverse.filter fun job => st.elapsedMs < job.endMs
        if asked found 'p' then
          say "jobs" (running.flatMap fun job => ByteText.toBytes (job.pid ++ ['\n'])) 0 st
        else st.withStatus 0

/-- Forgets jobs. -/
def disown : Builtin := fun args st =>
  match args with
  | [] => if st.jobs = [] then fails "disown" "current: no such job" 1 st else st.withStatus 0
  | _ => st.withStatus 0

end Scratchpad.Shell.Builtins
