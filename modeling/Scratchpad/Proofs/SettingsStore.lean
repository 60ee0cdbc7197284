import Scratchpad.Proofs.Files.Effects
import Scratchpad.Proofs.SettingsText
import Scratchpad.Proofs.Text
import Scratchpad.Settings.Store

/-!
# Stored settings are loaded again

Settings that were stored are loaded again from the same path as they were. It takes a path that
does not lead through what it leads to: a link there is replaced by the file, and a path that needs
the link leads nowhere afterwards, which reads as the defaults.
-/

namespace Scratchpad.Settings

open Files (Path System Place Name Node IsEntry)
open Files.System (ok_of_bind)

variable {fs fs' : System} {path : Path} {s : Settings} {dir : Place} {name : Name} {node : Node}
  {bytes : Bytes}

theorem validate_eq_ok_iff : s.validate = .ok () ↔ s.fault? = none := by
  unfold validate
  cases s.fault? <;> simp

theorem validate_default : default.validate = .ok () := by decide

/-! ## Loading -/

theorem pathExists_of_read (h : fs.read path = .ok bytes) : fs.pathExists path = true := by
  obtain ⟨node, hnode, -⟩ := ok_of_bind h
  rw [System.pathExists, hnode]

theorem readText_of_read (h : fs.read path = .ok bytes) :
    fs.readText path = match bytes.text? with
      | some text => .ok text
      | none => .error .notText := by
  rw [System.readText, h]
  simp only [bind, Except.bind]
  cases bytes.text? <;> rfl

theorem load_of_aims {text : String} (h : fs.Aims path dir name) (he : IsEntry name)
    (hget : fs.root.get? (dir ++ [name]) = some node) (hleaf : node.pass? = none)
    (htext : node.contents.text? = some text) (hs : ofText? text = some s)
    (hvalid : s.validate = .ok ()) : load fs path = .ok s := by
  have hread : fs.read path = .ok node.contents := h.read he hget hleaf
  rw [load, if_pos (pathExists_of_read hread), readText_of_read hread, htext]
  simp only [hs, hvalid]
  rfl

theorem load_of_not_pathExists (h : fs.pathExists path = false) : load fs path = .ok default := by
  rw [load, h, if_neg (by simp), validate_default]
  rfl

theorem load_of_not_aims (h : ∀ dir name, ¬ fs.Aims path dir name) :
    load fs path = .ok default := by
  apply load_of_not_pathExists
  rw [System.pathExists, System.node?]
  cases hresolve : fs.resolve true path with
  | error e => rfl
  | ok target =>
    obtain ⟨dir, name, haims, -⟩ := System.aims_of_locate hresolve
    exact absurd haims (h dir name)

theorem ofText?_empty : ofText? "" = some default := by decide

/-! ## Storing -/

/-- The file system that the temporary file is written to: the directories above the target are
there. -/
def prepared (fs : System) (path : Path) : System :=
  match path.parent? with
  | some parent => (fs.makeDirs parent).1
  | none => fs

/-- Settings that were stored were usable, and their text was written and then moved. -/
theorem moved_of_store (h : store fs path s = (fs', .ok ())) :
    s.fault? = none ∧ ∃ written,
      (prepared fs path).write (temporary path) (Bytes.ofString s.toText) = .ok written ∧
        written.rename (temporary path) path = .ok fs' := by
  unfold store at h
  split at h
  next => cases h
  next => cases h
  next parent hfault hparent =>
    split at h
    next => cases h
    next made hmade =>
      have hprepared : prepared fs path = made := by
        simp only [prepared, hparent, hmade]
      split at h
      next => cases h
      next written hwrite =>
        split at h
        next => cases h
        next moved hmove =>
          cases h
          exact ⟨hfault, written, hprepared ▸ hwrite, hmove⟩

/-- What is stored at a path is found there later: its text is not lost while it is written, and the
path does not lead through what is replaced. -/
structure Lasts (fs : System) (path : Path) : Prop where
  keeps : (prepared fs path).Keeps (temporary path)
  straight : (prepared fs path).Straight path

/-- Settings are stored only if they are usable, and unless a link stands at the temporary path they
are loaded again as they were; where they do not last, the defaults are loaded. -/
theorem load_store (h : store fs path s = (fs', .ok ())) :
    s.validate = .ok () ∧ ((prepared fs path).Unlinked (temporary path) →
      (Lasts fs path → load fs' path = .ok s) ∧
      (¬ Lasts fs path → load fs' path = .ok default)) := by
  obtain ⟨hfault, written, hwrite, hmove⟩ := moved_of_store h
  have hvalid : s.validate = .ok () := validate_eq_ok_iff.mpr hfault
  refine ⟨hvalid, fun hlink => ?_⟩
  obtain ⟨dir, name, node, hsource, he, hwithin, hget, hleaf, hkept, hlost⟩ :=
    System.exists_of_write hwrite hlink
  -- what is moved is what was written
  obtain ⟨d, n, hmoved⟩ := System.aims_of_rename hmove
  obtain rfl : name = n := hsource.name_eq hmoved
  obtain rfl : dir = d := hsource.dir_eq (hmoved.mono hwithin) he
  obtain ⟨dir', name', htarget, he', hshut, hget'⟩ :=
    System.exists_of_rename hmove hmoved he hget hleaf
  by_cases hstraight : (prepared fs path).Straight path
  · have haims : fs'.Aims path dir' name' := hstraight.aims hwithin hshut htarget he'
    constructor
    · intro hlasts
      refine load_of_aims haims he' hget' hleaf ?_ (ofText?_toText s) hvalid
      rw [hkept hlasts.keeps, Bytes.text?_ofString]
    · intro hlasts
      have hkeeps : ¬ (prepared fs path).Keeps (temporary path) :=
        fun hkeeps => hlasts ⟨hkeeps, hstraight⟩
      refine load_of_aims haims he' hget' hleaf ?_ ofText?_empty validate_default
      rw [hlost hkeeps]
      rfl
  · refine ⟨fun hlasts => absurd hlasts.straight hstraight, fun _ => load_of_not_aims ?_⟩
    intro d n haims
    exact hstraight (System.straight_of_aims hwithin hshut htarget he' haims)

/-! ## Beside a link and through it -/

/-- A directory, and in it the working directory, with some entries. -/
def directory (entries : List (Name × Node)) : System where
  root := .dir { mode := 0o755, changed := 0 } entries
  cwd := []
  now := 0
  mask := 0o22

def link (name target : String) : Name × Node :=
  (Path.ofString name, .link { mode := 0o777, changed := 0 } (Path.ofString target))

def file (name : String) (contents : Bytes) : Name × Node :=
  (Path.ofString name, .file { mode := 0o644, changed := 0 } contents)

def subdirectory (name : String) : Name × Node :=
  (Path.ofString name, .dir { mode := 0o755, changed := 0 } [])

def quoting : Settings :=
  { default with evalUrl := "http://it's \"here\"\n" }

theorem store_of_moved {parent : Path} {made written : System} (hfault : s.fault? = none)
    (hparent : path.parent? = some parent) (hmade : fs.makeDirs parent = (made, none))
    (hwrite : made.write (temporary path) (Bytes.ofString s.toText) = .ok written)
    (hmove : written.rename (temporary path) path = .ok fs') :
    store fs path s = (fs', .ok ()) := by
  simp only [store, hfault, hparent, hmade, hwrite, hmove]

/-- Settings that are stored beside a link are loaded again. -/
theorem load_store_beside_link :
    ∃ fs', store (directory [link "x" "."]) (Path.ofString "y") quoting = (fs', .ok ()) ∧
      (prepared (directory [link "x" "."]) (Path.ofString "y")).Unlinked
        (temporary (Path.ofString "y")) ∧
      Lasts (directory [link "x" "."]) (Path.ofString "y") ∧
      load fs' (Path.ofString "y") = .ok quoting := by
  have hparent : (Path.ofString "y").parent? = some [] := by decide
  have hmade : (directory [link "x" "."]).makeDirs [] = (directory [link "x" "."], none) := by cbv
  have hwrite (b : Bytes) : (directory [link "x" "."]).write (temporary (Path.ofString "y")) b =
      .ok (directory [link "x" ".", file "y.toml.tmp" b]) := by
    cbv
  have hmove (b : Bytes) : (directory [link "x" ".", file "y.toml.tmp" b]).rename
      (temporary (Path.ofString "y")) (Path.ofString "y") =
      .ok (directory [link "x" ".", file "y" b]) := by
    cbv
  have hstore := store_of_moved (s := quoting) (by decide) hparent hmade (hwrite _) (hmove _)
  have hprepared : prepared (directory [link "x" "."]) (Path.ofString "y") =
      directory [link "x" "."] := by
    rw [prepared, hparent]
    simp only [hmade]
  have hunlinked : (prepared (directory [link "x" "."]) (Path.ofString "y")).Unlinked
      (temporary (Path.ofString "y")) := by
    rw [hprepared]
    intro place node h
    cbv at h
    cases h
  have hlasts : Lasts (directory [link "x" "."]) (Path.ofString "y") := by
    refine ⟨?_, ?_⟩ <;> rw [hprepared] <;> intro place node h <;> cbv at h <;> cases h
  exact ⟨_, hstore, hunlinked, hlasts, ((load_store hstore).2 hunlinked).1 hlasts⟩

/-- Settings that are stored through the link that they replace are lost, and so are those whose
temporary path comes to lead to a link only once a directory is made. -/
theorem not_load_store :
    (∃ fs', store (directory [link "x" "."]) (Path.ofString "x/x") quoting = (fs', .ok ()) ∧
      (directory [link "x" "."]).Unlinked (temporary (Path.ofString "x/x")) ∧
      load fs' (Path.ofString "x/x") ≠ .ok quoting) ∧
    ∃ fs', store (directory [link "x.toml.tmp" "x"]) (Path.ofString "a/../x") quoting =
        (fs', .ok ()) ∧
      (directory [link "x.toml.tmp" "x"]).Unlinked (temporary (Path.ofString "a/../x")) ∧
      load fs' (Path.ofString "a/../x") ≠ .ok quoting := by
  constructor
  · have hmade : (directory [link "x" "."]).makeDirs (Path.ofString "x") =
        (directory [link "x" "."], none) := by
      cbv
    have hwrite (b : Bytes) :
        (directory [link "x" "."]).write (temporary (Path.ofString "x/x")) b =
          .ok (directory [link "x" ".", file "x.toml.tmp" b]) := by
      cbv
    have hmove (b : Bytes) :
        (directory [link "x" ".", file "x.toml.tmp" b]).rename (temporary (Path.ofString "x/x"))
          (Path.ofString "x/x") = .ok (directory [file "x" b]) := by
      cbv
    refine ⟨_, store_of_moved (by decide) (by decide) hmade (hwrite _) (hmove _), ?_, ?_⟩
    · intro place node h
      cbv at h
      cases h
    · generalize Bytes.ofString quoting.toText = b
      rw [load_of_not_pathExists (by cbv)]
      decide
  · have hmade : (directory [link "x.toml.tmp" "x"]).makeDirs (Path.ofString "a/..") =
        (directory [link "x.toml.tmp" "x", subdirectory "a"], none) := by
      cbv
    have hwrite (b : Bytes) :
        (directory [link "x.toml.tmp" "x", subdirectory "a"]).write
          (temporary (Path.ofString "a/../x")) b =
          .ok (directory [link "x.toml.tmp" "x", subdirectory "a", file "x" b]) := by
      cbv
    have hmove (b : Bytes) :
        (directory [link "x.toml.tmp" "x", subdirectory "a", file "x" b]).rename
          (temporary (Path.ofString "a/../x")) (Path.ofString "a/../x") =
          .ok (directory [subdirectory "a", link "x" "x"]) := by
      cbv
    refine ⟨_, store_of_moved (by decide) (by decide) hmade (hwrite _) (hmove _), ?_, ?_⟩
    · intro place node h
      cbv at h
      cases h
    · rw [load_of_not_pathExists (by cbv)]
      decide

end Scratchpad.Settings
