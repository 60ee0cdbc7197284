import Scratchpad.Files.System
import Scratchpad.Settings.Document

/-!
# Stored settings

Settings are loaded from a file, a missing file standing for the defaults, and are never returned
unless they are usable. They are stored by writing a temporary file beside the target and renaming
it, so the target holds either what it held before or the whole new text.
-/

namespace Scratchpad.Settings

open Files (Path System)

inductive LoadError
  | read (path : Path) (e : Files.Error)
  | parse (path : Path)
  | invalid (f : Fault)
deriving DecidableEq, Repr

/-- What is said of an error, from the outermost context to the cause. -/
def LoadError.causes : LoadError → List String
  | .read path e => ["read " ++ path.display, e.text]
  | .parse path => ["parse " ++ path.display, "TOML parse error"]
  | .invalid f => [f.message]

def load (fs : System) (path : Path) : Except LoadError Settings :=
  if fs.pathExists path then
    match fs.readText path with
    | .error e => .error (.read path e)
    | .ok text =>
      match ofText? text with
      | none => .error (.parse path)
      | some s => (s.validate.mapError .invalid).map fun _ => s
  else (default.validate.mapError .invalid).map fun _ => default

/-- The settings a command works with: those of the file, whose endpoints a server replaces. -/
def resolve (fs : System) (path : Path) (server : Option String) : Except LoadError Settings := do
  let s ← load fs path
  let s := match server with
    | none => s
    | some server => s.setServer server
  (s.validate.mapError .invalid).map fun _ => s

inductive StoreError
  | invalid (f : Fault)
  | noParent (path : Path)
  | createDirectory (path : Path) (e : Files.Error)
  | writeTemporary (path : Path) (e : Files.Error)
  | replace (path : Path) (e : Files.Error)
deriving DecidableEq, Repr

def StoreError.causes : StoreError → List String
  | .invalid f => [f.message]
  | .noParent path => ["config path missing parent " ++ path.display]
  | .createDirectory path e => ["create directory " ++ path.display, e.text]
  | .writeTemporary path e => ["write temp config " ++ path.display, e.text]
  | .replace path e => ["replace config " ++ path.display, e.text]

/-- The file that is written first. -/
def temporary (path : Path) : Path :=
  path.withExtension (Path.ofString "toml.tmp")

/-- Stores settings; what was made before a failure stays. -/
def store (fs : System) (path : Path) (s : Settings) : System × Except StoreError Unit :=
  match s.fault?, path.parent? with
  | some f, _ => (fs, .error (.invalid f))
  | none, none => (fs, .error (.noParent path))
  | none, some parent =>
    match fs.makeDirs parent with
    | (fs, some e) => (fs, .error (.createDirectory parent e))
    | (fs, none) =>
      match fs.write (temporary path) (Bytes.ofString s.toText) with
      | .error e => (fs, .error (.writeTemporary (temporary path) e))
      | .ok fs =>
        match fs.rename (temporary path) path with
        | .error e => (fs, .error (.replace path e))
        | .ok fs => (fs, .ok ())

end Scratchpad.Settings
