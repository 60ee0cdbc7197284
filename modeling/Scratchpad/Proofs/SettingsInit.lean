import Scratchpad.CommandLine.ClientRun
import Scratchpad.Proofs.Files.Effects
import Scratchpad.Proofs.SettingsLoad

/-!
# Settings that are written anew

Where nothing is in the way of a file, usable settings are stored and loaded again. A run that
writes the settings over what was there writes those in force: for a missing file the starting ones,
but for a file that is there its own, with the endpoints of the server that was given; and where
these are not usable nothing is written.
-/

namespace Scratchpad.Settings

open Files (Path System Place Name Node IsEntry)
open CommandLine

variable {fs fs' : System} {path parent : Path} {s : Settings}

/-! ## Storing where nothing is in the way -/

/-- Nothing is in the way of a file at a path. The directories above it are there or can be made; if
anything is in the place of the temporary file then a file is; and the path names a place at which
it comes neither to a directory nor to links without an end. -/
structure Clear (fs : System) (path : Path) : Prop where
  directories : ∃ parent, path.parent? = some parent ∧ (fs.makeDirs parent).2 = none
  beside : ∃ dir name, (prepared fs path).Aims (temporary path) dir name ∧ IsEntry name ∧
    ∀ node, (prepared fs path).root.get? (dir ++ [name]) = some node → ∃ t b, node = .file t b
  names : ∃ dir name, (prepared fs path).Aims path dir name ∧ IsEntry name
  file : ∀ place, ¬ (prepared fs path).Reaches path place
  ends : (prepared fs path).resolve true path ≠ .error .linkLoop

theorem coherent_prepared (h : fs.Coherent) (path : Path) : (prepared fs path).Coherent := by
  unfold prepared
  split
  next => exact h.makeDirs _
  next => exact h

theorem Clear.lasts (h : Clear fs path) : Lasts fs path := by
  obtain ⟨dir, name, htemporary, he, hfile⟩ := h.beside
  obtain ⟨dir', name', htarget, he'⟩ := h.names
  refine ⟨(htemporary.keeps_iff he).mpr fun t hget => ?_, htarget.straight he' h.file h.ends⟩
  obtain ⟨t', b, hnode⟩ := hfile _ hget
  cases hnode

theorem Clear.unlinked (h : Clear fs path) : (prepared fs path).Unlinked (temporary path) := by
  obtain ⟨dir, name, haims, he, hfile⟩ := h.beside
  intro place node hresolve
  obtain ⟨-, hget⟩ := (haims.resolve_eq_found_iff he).mp hresolve
  obtain ⟨t, b, rfl⟩ := hfile _ hget
  rfl

/-- Usable settings are stored, and loaded again. -/
theorem exists_store (hclear : Clear fs path) (hcoherent : fs.Coherent) (hfault : s.fault? = none) :
    ∃ fs', store fs path s = (fs', .ok ()) ∧ load fs' path = .ok s := by
  obtain ⟨parent, hparent, hnone⟩ := hclear.directories
  obtain ⟨dir, name, htemporary, he, hfile⟩ := hclear.beside
  obtain ⟨dir', name', htarget, he'⟩ := hclear.names
  have hmade : fs.makeDirs parent = (prepared fs path, none) :=
    Prod.ext (by simp only [prepared, hparent]) hnone
  obtain ⟨written, hwrite⟩ := htemporary.write he hfile (Bytes.ofString s.toText)
  -- the file that was written can be moved
  have hretains := System.retains_of_write hwrite hclear.unlinked (coherent_prepared hcoherent path)
  obtain ⟨d, n, node, hsource, hd, hwithin, hget, -⟩ :=
    System.exists_of_write hwrite hclear.unlinked
  have hfound : written.resolve false (temporary path) = .ok (.found (d ++ [n]) node) :=
    ((hsource.mono hretains.within).resolve_eq_found_iff hd).mpr ⟨rfl, hget⟩
  have hdir : written.root.passAt (dir' ++ [name']) ≠ some .dir := by
    intro hdir
    obtain ⟨t, entries, hget⟩ := Node.passAt_eq_dir_iff.mp (hwithin.passAt _ _ hdir)
    exact hclear.file _ (htarget.reaches he' hget)
  obtain ⟨fs', hmove⟩ := (htarget.mono hretains.within).rename he' hdir hfound
  have hstore := store_of_moved hfault hparent hmade hwrite hmove
  exact ⟨fs', hstore, ((load_store hstore).2 hclear.unlinked).1 hclear.lasts⟩

/-! ## Runs that write the settings -/

/-- A run is a success, after which these settings are loaded from its path. -/
def Leaves (around : Surroundings) (a : ClientArguments) (s : Settings) : Prop :=
  ∃ fs' report, ClientRun.run around a = (fs', report) ∧ report.code = 0 ∧
    load fs' a.config = .ok s

/-- The starting settings, for the server that is given. -/
def starter (server : Option String) : Settings :=
  forServer (server.getD defaultServer)

/-- What a file of some contents says, if it is settings. -/
def ofBytes? (bytes : Bytes) : Option Settings :=
  bytes.text?.bind ofText?

variable {around : Surroundings} {a : ClientArguments} {bytes : Bytes}

theorem load_eq_ok_iff (h : fs.read path = .ok bytes) :
    load fs path = .ok s ↔ ofBytes? bytes = some s ∧ s.fault? = none := by
  rw [load, if_pos (pathExists_of_read h), readText_of_read h, ofBytes?]
  cases bytes.text? with
  | none => simp
  | some text =>
    cases hs : ofText? text with
    | none => simp [hs]
    | some s' =>
      simp only [hs, map_validate, Option.bind_some, Option.some.injEq, checked_eq_ok_iff]
      refine and_congr_right ?_
      rintro rfl
      rfl

/-- The settings that are in force are written over what was there. -/
theorem leaves_of_load (htask : a.task = .init true) (hcoherent : around.files.Coherent)
    (hclear : Clear around.files a.config) (h : load around.files a.config = .ok s) :
    Leaves around a (a.server.elim s s.setServer) := by
  have hresolve : resolve around.files a.config a.server =
      .ok (a.server.elim s s.setServer) := by
    rw [resolve_eq, h]
    rfl
  obtain ⟨fs', hstore, hload⟩ := exists_store hclear hcoherent (fault?_of_resolve hresolve)
  refine ⟨fs', .said (Bytes.ofString ("wrote " ++ a.config.display ++ "\n")), ?_, rfl, hload⟩
  simp only [ClientRun.run, hresolve, htask, ClientRun.init, hstore, Bool.not_true, Bool.and_false,
    Bool.false_eq_true, if_false]

theorem Leaves.unique {s' : Settings} (h : Leaves around a s) (h' : Leaves around a s') :
    s = s' := by
  obtain ⟨fs', report, hrun, -, hload⟩ := h
  obtain ⟨fs'', report', hrun', -, hload'⟩ := h'
  cases hrun.symm.trans hrun'
  exact Except.ok.inj (hload.symm.trans hload')

/-- Settings that cannot be loaded are not written over. -/
theorem run_of_error {e : LoadError} (h : load around.files a.config = .error e) :
    ClientRun.run around a = (around.files, .complained Report.wrong (chain e.causes)) := by
  rw [ClientRun.run, resolve_of_error h]

theorem elim_default (server : Option String) :
    server.elim default default.setServer = starter server := by
  cases server <;> rfl

/-- Where nothing is in the way, a run that writes the settings anew leaves the starting settings if
there was no file. If there was one, it leaves the settings of the file if these are usable, with
the endpoints of the server that is given, and otherwise it fails and changes nothing; so it leaves
the starting settings exactly if those of the file were the same or became the same. -/
theorem run_init_anew (htask : a.task = .init true) (hcoherent : around.files.Coherent)
    (hclear : Clear around.files a.config) :
    (around.files.pathExists a.config = false → Leaves around a (starter a.server)) ∧
    ∀ bytes, around.files.read a.config = .ok bytes →
      (∀ s, ofBytes? bytes = some s → s.fault? = none →
        Leaves around a (a.server.elim s s.setServer)) ∧
      ((∀ s, ofBytes? bytes = some s → s.fault? ≠ none) →
        ∃ report, ClientRun.run around a = (around.files, report) ∧ report.code = Report.wrong) ∧
      (Leaves around a (starter a.server) ↔ ∃ s, ofBytes? bytes = some s ∧ s.fault? = none ∧
        a.server.elim s s.setServer = starter a.server) := by
  refine ⟨fun hmissing => ?_, fun bytes hread => ?_⟩
  · rw [← elim_default]
    exact leaves_of_load htask hcoherent hclear (load_of_not_pathExists hmissing)
  have hleaves (s : Settings) (hs : ofBytes? bytes = some s) (hfault : s.fault? = none) :
      Leaves around a (a.server.elim s s.setServer) :=
    leaves_of_load htask hcoherent hclear ((load_eq_ok_iff hread).mpr ⟨hs, hfault⟩)
  have hrefused (h : ∀ s, ofBytes? bytes = some s → s.fault? ≠ none) :
      ∃ report, ClientRun.run around a = (around.files, report) ∧ report.code = Report.wrong := by
    cases hload : load around.files a.config with
    | error e => exact ⟨_, run_of_error hload, rfl⟩
    | ok s =>
      obtain ⟨hs, hfault⟩ := (load_eq_ok_iff hread).mp hload
      exact absurd hfault (h s hs)
  refine ⟨hleaves, hrefused, fun hstarter => ?_, fun ⟨s, hs, hfault, heq⟩ => ?_⟩
  · cases hload : load around.files a.config with
    | error e =>
      obtain ⟨fs', report, hrun, hcode, -⟩ := hstarter
      cases (run_of_error hload).symm.trans hrun
      cases hcode
    | ok s =>
      obtain ⟨hs, hfault⟩ := (load_eq_ok_iff hread).mp hload
      exact ⟨s, hs, hfault, (hleaves s hs hfault).unique hstarter⟩
  · exact heq ▸ hleaves s hs hfault

/-! ## Over a file that is there -/

/-- A directory with some entries, and no network. -/
def amid (entries : List (Name × Node)) : Surroundings where
  files := directory entries
  net := .unreachable
  input := []

/-- The arguments that ask for new settings. -/
def anew (server : Option String) : ClientArguments where
  config := Path.ofString "p"
  server := server
  task := .init true

theorem prepared_directory (entries : List (Name × Node)) :
    prepared (directory entries) (Path.ofString "p") = directory entries := by
  have hparent : (Path.ofString "p").parent? = some [] := by decide
  rw [prepared, hparent]
  simp only [System.makeDirs_nil]

theorem clear_of_resolve {entries : List (Name × Node)} {target : Files.Target}
    (hbeside : (directory entries).resolve false (temporary (Path.ofString "p")) =
      .ok (.absent [] (Path.ofString "p.toml.tmp")))
    (hnames : ∃ dir name, (directory entries).Aims (Path.ofString "p") dir name ∧ IsEntry name)
    (hresolve : (directory entries).resolve true (Path.ofString "p") = .ok target)
    (hfile : ∀ place t more, target ≠ .found place (.dir t more)) :
    Clear (directory entries) (Path.ofString "p") := by
  refine ⟨⟨[], by decide, by rw [System.makeDirs_nil]⟩, ?_, ?_, ?_, ?_⟩
  all_goals rw [prepared_directory]
  · obtain ⟨haims, he, hnone⟩ := System.aims_of_absent hbeside
    exact ⟨_, _, haims, he, fun node hget => by cases hnone.symm.trans hget⟩
  · exact hnames
  · rintro place ⟨t, more, hreaches⟩
    exact hfile place t more (Except.ok.inj (hresolve.symm.trans hreaches))
  · simp [hresolve]

theorem clear_empty : Clear (directory []) (Path.ofString "p") := by
  have hresolve (follow : Bool) : (directory []).resolve follow (Path.ofString "p") =
      .ok (.absent [] (Path.ofString "p")) := by
    cases follow <;> cbv
  obtain ⟨haims, he, -⟩ := System.aims_of_absent (hresolve false)
  refine clear_of_resolve (by cbv) ⟨_, _, haims, he⟩ (hresolve true) fun place t more heq => ?_
  cases heq

theorem clear_file (b : Bytes) : Clear (directory [file "p" b]) (Path.ofString "p") := by
  have hresolve (follow : Bool) : (directory [file "p" b]).resolve follow (Path.ofString "p") =
      .ok (.found [Path.ofString "p"] (file "p" b).2) := by
    cases follow <;> cbv
  obtain ⟨dir, name, haims, he, -⟩ := System.aims_of_found (hresolve false) rfl
  refine clear_of_resolve (by cbv) ⟨_, _, haims, he⟩ (hresolve true) fun place t more heq => ?_
  cases heq

theorem ofBytes?_ofString (text : String) : ofBytes? (Bytes.ofString text) = ofText? text := by
  rw [ofBytes?, Bytes.text?_ofString, Option.bind_some]

/-- The starting settings are left where there was no file, and in the place of a file that differs
in an endpoint that the server replaces. -/
theorem run_init_anew_over_endpoint :
    Leaves (amid []) (anew none) (starter none) ∧
      Leaves (amid [file "p" (Bytes.ofString "eval_url = \"http://a\"\n")])
        (anew (some "http://b/")) (starter (some "http://b/")) := by
  constructor
  · exact (run_init_anew rfl (System.coherent_of_numbers rfl) clear_empty).1 (by cbv)
  · have hclear : Clear (amid [file "p" (Bytes.ofString "eval_url = \"http://a\"\n")]).files
        (anew (some "http://b/")).config :=
      clear_file _
    have hrun := (run_init_anew rfl (System.coherent_of_numbers rfl) hclear).2 _ (read_file _)
    exact hrun.2.2.mpr ⟨_, (ofBytes?_ofString _).trans ofText?_pointed, by decide, by decide⟩

/-- An interval in the file is kept, and a file that holds no settings is not written over, although
nothing is in the way. -/
theorem not_run_init_anew :
    (Clear (directory [file "p" (Bytes.ofString "redraw_interval_ms = 7\n")]) (Path.ofString "p") ∧
      ¬ Leaves (amid [file "p" (Bytes.ofString "redraw_interval_ms = 7\n")]) (anew none)
        (starter none)) ∧
    Clear (directory [file "p" (Bytes.ofString "x")]) (Path.ofString "p") ∧
      ClientRun.run (amid [file "p" (Bytes.ofString "x")]) (anew none) =
        (directory [file "p" (Bytes.ofString "x")],
          .complained Report.wrong (chain (LoadError.parse (Path.ofString "p")).causes)) := by
  refine ⟨⟨clear_file _, fun hstarter => ?_⟩, clear_file _, ?_⟩
  · have hs : ofText? "redraw_interval_ms = 7\n" = some { default with redrawIntervalMs := 7 } := by
      decide
    have hload : load (directory [file "p" (Bytes.ofString "redraw_interval_ms = 7\n")])
        (Path.ofString "p") = .ok { default with redrawIntervalMs := 7 } :=
      (load_of_readText (readText_file _) hs).trans (checked_of_fault? (by decide))
    have hkept : Leaves (amid [file "p" (Bytes.ofString "redraw_interval_ms = 7\n")]) (anew none)
        { default with redrawIntervalMs := 7 } :=
      leaves_of_load rfl (System.coherent_of_numbers rfl) (clear_file _) hload
    exact absurd (hkept.unique hstarter) (by decide)
  · have hs : ofText? "x" = none := by decide
    have hload : load (directory [file "p" (Bytes.ofString "x")]) (Path.ofString "p") =
        .error (.parse (Path.ofString "p")) := by
      rw [load, if_pos (pathExists_of_readText (readText_file _)), readText_file]
      simp only [hs]
    exact run_of_error hload

end Scratchpad.Settings
