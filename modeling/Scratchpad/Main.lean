import Scratchpad.CommandLine.ClientRun
import Scratchpad.CommandLine.ServerStart

/-!
# The command line

The outer layer looks up the files that a run may touch, calls the library, and carries out what it
says. With `serve` in front the arguments are those of the server, which is started and no more; all
others are those of the client. Requests reach nobody from here.
-/

namespace Scratchpad.CommandLine

open Files (Path System)

/-- The names in a directory, if there is one. -/
def namesIn (dir : Path) : IO (Option (List Path)) := do
  try
    let entries ← ((← IO.currentDir) / dir.display).readDir
    return some (entries.toList.map fun entry => Path.ofString entry.fileName)
  catch _ => return none

/-- The contents of a file, if there is one. -/
def contentsOf (file : Path) : IO (Option Bytes) := do
  try
    return some (← IO.FS.readBinFile file.display).toList
  catch _ => return none

/-- Puts what is at a path into a file system, if there is anything. -/
def observe (fs : System) (path : Path) : IO System := do
  match ← contentsOf path with
  | some contents =>
    let (fs, _) := fs.makeDirs (path.parent?.getD [])
    return (fs.write path contents).toOption.getD fs
  | none => return if (← namesIn path).isSome then (fs.makeDirs path).1 else fs

/-- Puts a directory and the files in it into a file system. -/
def observeDir (fs : System) (dir : Path) : IO System := do
  let fs ← observe fs dir
  ((← namesIn dir).getD []).foldlM (fun fs name => observe fs (dir.join name)) fs

/-- An empty file system to look things up into. -/
def blank : System :=
  ⟨.dir { mode := 0o755, changed := 0 } [], [], 0, 0o022⟩

/-- The paths that a run of the client may look at or change. -/
def touched (a : ClientArguments) : List Path :=
  [a.config.parent?.getD [], a.config, Settings.temporary a.config] ++
    (match a.task with
      | .eval (some file) => [file]
      | _ => [])

/-- Writes a file of the result where it differs from what was there. -/
def keep (before after : System) (path : Path) : IO Unit := do
  match before.read path, after.read path with
  | old, .ok contents =>
    if old.toOption ≠ some contents then
      let parent := (path.parent?.getD []).display
      if parent ≠ "" then IO.FS.createDirAll parent
      IO.FS.writeBinFile path.display (ByteArray.mk contents.toArray)
  | _, .error _ => return ()

/-- Writes a report and gives its exit code. -/
def tell (r : Report) : IO UInt32 := do
  let out ← IO.getStdout
  out.write (ByteArray.mk r.stdout.toArray)
  out.flush
  let err ← IO.getStderr
  err.write (ByteArray.mk r.stderr.toArray)
  err.flush
  return UInt32.ofNat r.code

/-- All that can be read from a stream; `fuel` bounds the number of reads. -/
def readAll (stream : IO.FS.Stream) : Nat → ByteArray → IO ByteArray
  | 0, acc => return acc
  | fuel + 1, acc => do
    let chunk ← stream.read 65536
    if chunk.isEmpty then return acc else readAll stream fuel (acc ++ chunk)

/-- Does a run read the standard input? -/
def readsInput (a : ClientArguments) : Bool :=
  match a.task with
  | .eval none | .session => true
  | _ => false

def clientMain (args : List String) : IO UInt32 := do
  match ClientArguments.parse args with
  | .error stop => tell stop.report
  | .ok a =>
    let fs ← (touched a).foldlM observe blank
    let input ← if readsInput a then readAll (← IO.getStdin) (1 <<< 20) .empty else pure .empty
    let (after, report) := ClientRun.run ⟨fs, .unreachable, input.toList⟩ a
    keep fs after a.config
    tell report

def serverMain (args : List String) : IO UInt32 := do
  match ServerArguments.parse args with
  | .error stop => tell stop.report
  | .ok a =>
    let fs ← observeDir blank a.examples
    let fs ← match a.site with
      | some site => observe fs site
      | none => pure fs
    match start fs [] a with
    | .error e => tell e.report
    | .ok _ => tell (.said [])

end Scratchpad.CommandLine

def main (args : List String) : IO UInt32 :=
  match args with
  | "serve" :: args => Scratchpad.CommandLine.serverMain args
  | args => Scratchpad.CommandLine.clientMain args
