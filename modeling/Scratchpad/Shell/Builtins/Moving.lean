import Scratchpad.Shell.Builtins.Basic
import Scratchpad.Shell.Variables

/-!
# Commands that move and leave

Going to another working directory. A shell goes by names: two dots take away the last name of the path
by which it came, whatever the directory above really is, unless it is asked for the real path.

Leaving the shell, a loop or a function, and dropping arguments.
-/

namespace Scratchpad.Shell.Builtins

open Files (Path Place)

/-- A path from the root after the steps of another one, without a look at the files. -/
def pathAfter (base steps : List Char) : List Char :=
  let start := if steps.head? = some '/' then [] else (base.splitOn '/').filter (· ≠ [])
  let names := (steps.splitOn '/').foldl (fun (names : List (List Char)) step =>
    if step = [] || step = ['.'] then names
    else if step = ['.', '.'] then names.dropLast
    else names ++ [step]) start
  if names = [] then ['/'] else names.flatMap ('/' :: ·)

/-- The path from the root to a place. -/
def realPath (place : Place) : List Char :=
  if place = [] then ['/'] else place.flatMap fun name => '/' :: ByteText.ofBytes name

/-- Goes to a directory, or says why not. -/
def enter (real : Bool) (target : List Char) (st : State) : Except Files.Error State :=
  let path := if real then target else pathAfter st.here target
  match st.files.resolve true (ByteText.toBytes path) with
  | .ok (.found place (.dir ..)) =>
    let before := st.here
    let here := if real then realPath place else path
    let st := { st with files := { st.files with cwd := place }, here, status := 0 }
    .ok (((st.set "OLDPWD".toList before).expose "OLDPWD".toList).set "PWD".toList here |>.expose
      "PWD".toList)
  | .ok (.absent ..) => .error .noEntry
  | .ok (.found ..) => .error .notDirectory
  | .error e => .error e

/-- The paths under which a directory is looked for, each with a mark on those that are shown. -/
def candidates (st : State) (target : List Char) : List (List Char × Bool) :=
  let first := (target.splitOn '/').headD []
  let direct := target = [] || first = [] || first = ['.'] || first = ['.', '.']
  let listed := if direct then [] else (st.get? "CDPATH".toList).getD []
  let found := if listed = [] then [] else
    (listed.splitOn ':').map fun dir =>
      if dir = [] then (target, false)
      else (dir ++ (if dir.getLast? = some '/' then target else '/' :: target), true)
  let there := found.filter fun (path, _) =>
    st.files.isDir (ByteText.toBytes (pathAfter st.here path))
  there.take 1 ++ [(target, false)]

/-- What the rich dialect says of directories that it does not know. -/
def unknownPlace (args : List (List Char)) (st : State) : Option String :=
  match args with
  | [] => if (st.get? "HOME".toList).isNone then some "HOME not set" else none
  | [arg] => if arg = ['-'] && (st.get? "OLDPWD".toList).isNone then some "OLDPWD not set" else none
  | _ => some "too many arguments"

/-- Goes to a directory, which is the home without an argument and the last one before with a
dash. -/
def cd : Builtin := fun args st =>
  reading "cd" false (if st.isRich then "LPe@" else "LP") "cd [-L|[-P [-e]] [-@]] [dir]" args st
    fun found rest =>
      let real := (found.filter fun (c, _) => c = 'P' || c = 'L').getLast?.any (·.1 = 'P')
      match (if st.isRich then unknownPlace rest st else none) with
      | some text => fails "cd" text 1 st
      | none =>
        let back := rest.head? = some ['-']
        let target := match rest with
          | [] => (st.get? "HOME".toList).getD []
          | arg :: _ => if back then (st.get? "OLDPWD".toList).getD [] else arg
        let (path, shows) := (candidates st target).headD (target, false)
        match enter real (if path = [] then ['.'] else path) st with
        | .ok st =>
          if back || shows then say "cd" (ByteText.toBytes (st.here ++ ['\n'])) 0 st else st
        | .error e =>
          if st.isRich then fails "cd" (ByteText.shown target ++ ": " ++ e.reason) 1 st
          else fails "cd" ("can't cd to " ++ ByteText.shown target) 2 st

/-- Says where the shell is. -/
def pwd : Builtin := fun args st =>
  reading "pwd" false "LP" "pwd [-LP]" args st fun found _ =>
    let path := if (found.getLast?).any (·.1 = 'P') then realPath st.files.cwd else st.here
    say "pwd" (ByteText.toBytes (path ++ ['\n'])) 0 st

/-! ## Places to come back to -/

/-- The directories that are kept, those last left first. -/
def kept (st : State) : List (List Char) :=
  (st.members "DIRSTACK".toList).map (·.2)

def keep (dirs : List (List Char)) (st : State) : State :=
  st.setList "DIRSTACK".toList (.ofList dirs)

/-- A path with a tilde in place of the home. -/
def shortened (st : State) (path : List Char) : List Char :=
  match st.get? "HOME".toList with
  | some home =>
    if home ≠ [] && home.isPrefixOf path && (path.drop home.length).head?.all (· = '/') then
      '~' :: path.drop home.length
    else path
  | none => path

/-- Shows where the shell is and which directories it keeps. -/
def dirs : Builtin := fun args st =>
  reading "dirs" false "clpv" "dirs [-clpv] [+N] [-N]" args st fun found _ =>
    if asked found 'c' then (keep [] st).withStatus 0
    else
      let all := st.here :: kept st
      let shown := if asked found 'l' then all else all.map (shortened st)
      let text :=
        if asked found 'v' then
          shown.zipIdx.flatMap fun (path, i) =>
            (Tools.padLeft 2 i.repr).toList ++ [' ', ' '] ++ path ++ ['\n']
        else if asked found 'p' then shown.flatMap (· ++ ['\n'])
        else [' '].intercalate shown ++ ['\n']
      say "dirs" (ByteText.toBytes text) 0 st

/-- Goes to a directory and keeps the one that is left. -/
def pushd : Builtin := fun args st =>
  let go (target : List Char) (left : List (List Char)) : State :=
    match enter false target st with
    | .ok after => dirs [] (keep (st.here :: left) after)
    | .error e => fails "pushd" (ByteText.shown target ++ ": " ++ e.reason) 1 st
  match args, kept st with
  | [], [] => fails "pushd" "no other directory" 1 st
  | [], top :: rest => go top rest
  | ['-', 'n'] :: dir :: _, found => dirs [] (keep (dir :: found) st)
  | dir :: _, found => go dir found

/-- Goes back to the directory that was left last. -/
def popd : Builtin := fun _ st =>
  match kept st with
  | [] => fails "popd" "directory stack empty" 1 st
  | top :: rest =>
    match enter false top st with
    | .ok after => dirs [] (keep rest after)
    | .error e => fails "popd" (ByteText.shown top ++ ": " ++ e.reason) 1 st

/-! ## Leaving -/

/-- What the rich dialect says of an argument that is no number. -/
def notNumeric (name : String) (arg : List Char) (st : State) : State :=
  fails name (ByteText.shown arg ++ ": numeric argument required") 2 st

/-- The status with which a shell leaves if it is not told another one. -/
def ownStatus (st : State) : Nat :=
  st.trapped.getD st.status

/-- Ends the shell. -/
def exit : Builtin := fun args st =>
  match args with
  | [] => { st with fate := .exited (ownStatus st) }
  | arg :: rest =>
    if st.isRich then
      match integer? arg with
      | none => { notNumeric "exit" arg st with fate := .exited 2 }
      | some n =>
        if rest = [] then { st with fate := .exited (n % 256).toNat }
        else fails "exit" "too many arguments" 1 st
    else withNumber "exit" arg st fun n => { st with fate := .exited (n % 256) }

/-- Leaves or repeats loops, of which there may be fewer than it is told. -/
def outOfLoops (name : String) (fate : Nat → Fate) : Builtin := fun args st =>
  let go (n : Nat) : State :=
    let n := min n st.loops
    if n = 0 then st.withStatus 0 else { st with fate := fate n, status := 0 }
  if st.isRich then
    if st.loops = 0 then
      (st.complain (name ++ ": only meaningful in a `for', `while', or `until' loop")).withStatus 0
    else
      match args with
      | [] => go 1
      | arg :: rest =>
        match integer? arg with
        | none => { notNumeric name arg st with fate := .exited 128 }
        | some n =>
          if rest ≠ [] then { fails name "too many arguments" 1 st with fate := .abandoned }
          else if n ≤ 0 then
            { fails name (ByteText.shown arg ++ ": loop count out of range") 1 st with
              fate := .leaving st.loops }
          else go n.toNat
  else
    match args with
    | [] => go 1
    | arg :: _ =>
      withNumber name arg st fun n =>
        if n = 0 then st.abort (name ++ ": Illegal number: " ++ ByteText.shown arg) else go n

def leave : Builtin := outOfLoops "break" .leaving

def again : Builtin := outOfLoops "continue" .repeating

/-- Returns from a function or a file. -/
def giveBack : Builtin := fun args st =>
  if st.isRich then
    if st.depth = 0 then fails "return" "can only `return' from a function or sourced script" 2 st
    else
      match args with
      | [] => { st with fate := .returning, status := ownStatus st }
      | arg :: _ =>
        match integer? arg with
        | none => { notNumeric "return" arg st with fate := .returning }
        | some n => { st with fate := .returning, status := (n % 256).toNat }
  else
    match args with
    | [] => { st with fate := .returning }
    | arg :: _ =>
      withNumber "return" arg st fun n => { st with status := n, fate := .returning }

/-- Drops arguments from the front. -/
def shift : Builtin := fun args st =>
  if st.isRich then
    match args with
    | [] => if st.args = [] then st.withStatus 1 else { st with args := st.args.drop 1, status := 0 }
    | arg :: _ =>
      match integer? arg with
      | none => (notNumeric "shift" arg st).withStatus 1
      | some n =>
        if n < 0 then fails "shift" (ByteText.shown arg ++ ": shift count out of range") 1 st
        else if st.args.length < n.toNat then st.withStatus 1
        else { st with args := st.args.drop n.toNat, status := 0 }
  else
    withNumber "shift" (args.headD ['1']) st fun n =>
      if st.args.length < n then st.abort "shift: can't shift that many"
      else { st with args := st.args.drop n, status := 0 }

end Scratchpad.Shell.Builtins
