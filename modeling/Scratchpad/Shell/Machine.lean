import Scratchpad.Process
import Scratchpad.Shell.Run

/-!
# A machine with a shell

The programs of this machine are a shell and the tools beside it. They are found below `/usr/bin`,
and every process gets a fresh copy of the files.
-/

namespace Scratchpad.Shell

open Files (Node Path System)
open Process (Course Refusal)

/-- How deeply commands may nest. -/
def fuel : Nat := 30000

/-- How often loops may turn and functions be called. -/
def turns : Nat := 200000

/-- When the machine starts, in nanoseconds since the beginning of 1970: late in the year 2026. -/
def startedAt : Int := 1794700800000000000

/-- What is known of an entry that was there from the start. -/
def settled (mode : Nat) : Files.Traits :=
  { mode, changed := startedAt }

/-- A directory with entries of these names. -/
def directory (entries : List (String × Node)) : Node :=
  .dir (settled 0o755) (entries.map fun (name, node) => (Path.ofString name, node))

/-- Directories without entries. -/
def bare (names : List String) : List (String × Node) :=
  names.map fun name => (name, directory [])

def link (name target : String) : String × Node :=
  (name, .link (settled 0o777) (Path.ofString target))

/-- The files of all programs. -/
def programs : List (String × Node) :=
  Program.names.map fun name => (name, .file (settled 0o755) (Program.contentsOf name))

/-- The files that the machine starts with. -/
def files : System where
  root :=
    directory ([
      ("usr", directory (("bin", directory programs) ::
        bare ["games", "include", "lib", "lib64", "libexec", "local", "sbin", "share", "src"])),
      ("var", directory (bare ["backups", "cache", "lib", "local", "log", "mail", "opt", "spool", "tmp"] ++
        [link "lock" "/run/lock", link "run" "/run"])),
      ("dev", directory ((["full", "null", "random", "tty", "urandom", "zero"].map fun name =>
        (name, .device (settled 0o666))) ++ ["stdin", "stdout", "stderr"].map fun name =>
        (name, .pipe (settled 0o600) []))),
      link "bin" "usr/bin", link "sbin" "usr/sbin", link "lib" "usr/lib", link "lib64" "usr/lib64",
      ("root", .dir (settled 0o700) []), ("tmp", .dir (settled 0o1777) [])] ++
      bare ["boot", "etc", "home", "media", "mnt", "opt", "proc", "run", "srv", "sys"])
  cwd := []
  now := startedAt
  mask := 0o022

/-- A shell or tool as it starts, with the input and both outputs of its process. -/
def initial (files : System) (input : Bytes) (name : List Char) : State where
  dialect := .plain
  name
  origin := name
  caller := none
  args := []
  vars := [("PATH".toList, State.usualPath), ("HOME".toList, "/root".toList), ("PWD".toList, ['/'])]
  lists := []
  traits := []
  exported := ["PATH", "HOME", "PWD"].map String.toList
  frozen := []
  aliases := []
  functions := []
  shared := []
  calls := []
  subshells := 0
  levels := 1
  disabled := []
  documents := []
  serial := 0
  status := 0
  statuses := [0]
  fate := .running
  input := .ofBytes input
  inputFrom := none
  inputs := []
  files
  here := ['/']
  found := []
  fds := [(1, .stdout), (2, .stderr)]
  log := []
  later := []
  startedAt := files.now
  elapsedMs := 0
  jobs := []
  jobsEndMs := 0
  traps := []
  trapped := none
  locals := none
  pipes := 0
  line := 0
  readLine := 0
  substituted := none
  options := []
  manners := []
  optionAt := (1, 0)
  guarded := false
  loops := 0
  depth := 0
  turns

/-- What the process of a shell was like, from the state at its end. -/
def courseOf (st : State) : Course :=
  let ends (status : Process.Status) : Course :=
    .ends st.elapsedMs status (Process.attempts (st.written .stdout))
      (Process.attempts (st.written .stderr))
  match st.fate with
  | .stuck _ => .runsOn
  | .signalled _ => ends .signalled
  | .exited code => ends (.exited code)
  | _ => ends (.exited (st.status % 256))

def start (files : System) (i : Invocation) (input : Bytes) : Except Refusal Course :=
  if (i.program :: i.args).any fun word => word.toList.contains '\x00' then .error .nulInCommand
  else
    match Program.find files i.program with
    | .error e => .error (.system e)
    | .ok program =>
      let name := ByteText.ofString i.program
      let st := initial files input name
      let args := i.args.map ByteText.ofString
      .ok (courseOf (match program with
        | .shell text => runShell fuel st text name args
        | program => runFound fuel st program name args))

/-- The machine. -/
def machine : Machine :=
  ⟨start files⟩

end Scratchpad.Shell
