import Scratchpad.CommandLine.ClientRun
import Scratchpad.Proofs.Files.Effects
import Scratchpad.Proofs.SettingsStore

/-!
# Settings are stored entirely or not at all

Storing settings under a path that has no part leading up changes the file that the path names and
the temporary file beside it, and makes directories that are missing above it. If it succeeds then
the file holds the whole text and the temporary file is gone; if it fails then what can be read at
the path is what could be read there before. A path that leads through what it names is lost when
that is replaced, as is what is written to a device; and a temporary file with a second name is
written under that name too.
-/

namespace Scratchpad.Settings

open Files (Path System Place Name Node IsEntry)
open Files.Path (parts)
open CommandLine (ClientRun.init Report)

variable {fs fs' : System} {path parent : Path} {s : Settings} {place dir : Place} {name : Name}
  {node : Node}

/-! ## The temporary path -/

/-- If the temporary path has a name then it has the same parent, and the name is another one. -/
theorem temporary_spec (hname : path.fileName? ≠ none) {other : Name}
    (hother : (temporary path).fileName? = some other) :
    (temporary path).parent? = path.parent? ∧ path.fileName? ≠ some other := by
  obtain ⟨name, hname⟩ := Option.ne_none_iff_exists'.mp hname
  have hdot : Path.dot ∈ Path.ofString "toml.tmp" := by decide
  have hslash : Path.slash ∉ Path.ofString "toml.tmp" := by decide
  obtain hnone | ⟨hparent, other', hother', hne⟩ := Path.withExtension_spec hname hdot hslash
  · cases hother.symm.trans hnone
  · obtain rfl := Option.some.inj (hother.symm.trans hother')
    exact ⟨hparent, by simp [hname, hne.symm]⟩

theorem fileName?_temporary_ne (hname : path.fileName? ≠ none) :
    (temporary path).fileName? ≠ path.fileName? := by
  intro heq
  obtain ⟨name, hname'⟩ := Option.ne_none_iff_exists'.mp hname
  exact (temporary_spec hname (heq.trans hname')).2 hname'

/-! ## The directories above -/

theorem outcome_of_parent? (hdots : [Path.dot, Path.dot] ∉ path.split)
    (hparent : path.parent? = some parent) :
    System.Outcome parent fs (fs.makeDirs parent) := by
  refine System.makeDirsWithin_outcome _ fs (Path.trim_of_parent? hparent) fun hmem => hdots ?_
  exact List.mem_of_mem_filter (Path.mem_parts_of_parent? hparent hmem)

theorem prepared_eq (hparent : path.parent? = some parent) :
    prepared fs path = (fs.makeDirs parent).1 := by
  rw [prepared, hparent]

theorem made_of_parent? (hdots : [Path.dot, Path.dot] ∉ path.split)
    (hparent : path.parent? = some parent) : System.Made parent fs (prepared fs path) := by
  rw [prepared_eq hparent]
  exact (outcome_of_parent? hdots hparent).made

/-- The directories above a path were made, if they were not there before. -/
structure Ready (fs : System) (path parent : Path) : Prop where
  parent? : path.parent? = some parent
  made : System.Made parent fs (prepared fs path)
  fresh : prepared fs path = fs ∨ (prepared fs path).Fresh parent

namespace Ready

/-- What is found at the temporary path was there before. -/
theorem eq_of_found (h : Ready fs path parent) (hname : path.fileName? ≠ none)
    (hfound : (prepared fs path).resolve false (temporary path) = .ok (.found place node))
    (hfile : node.isDir = false) : prepared fs path = fs := by
  refine h.fresh.resolve_right fun hfresh => ?_
  obtain ⟨dir, name, haims, he, rfl, hget⟩ := System.aims_of_found hfound hfile
  obtain ⟨hparent, -⟩ := temporary_spec hname (haims.parent he).1
  rw [hfresh.get?_of_aims (hparent.trans h.parent?) haims he] at hget
  cases hget

theorem unlinked (h : Ready fs path parent) (hname : path.fileName? ≠ none)
    (hlink : fs.Unlinked (temporary path)) : (prepared fs path).Unlinked (temporary path) := by
  intro place node hfound
  cases hfile : node.isDir with
  | true => cases node <;> first | rfl | cases hfile
  | false => exact hlink place node (h.eq_of_found hname hfound hfile ▸ hfound)

theorem unshared (h : Ready fs path parent) (hname : path.fileName? ≠ none)
    (hone : fs.Unshared (temporary path)) : (prepared fs path).Unshared (temporary path) :=
  fun place node hfound hfile =>
    hone place node (h.eq_of_found hname hfound hfile ▸ hfound) hfile

theorem keeps (h : Ready fs path parent) (hname : path.fileName? ≠ none)
    (hkeeps : fs.Keeps (temporary path)) : (prepared fs path).Keeps (temporary path) :=
  fun place t hfound => hkeeps place t (h.eq_of_found hname hfound rfl ▸ hfound)

theorem straight (h : Ready fs path parent) (haims : (prepared fs path).Aims path dir name)
    (he : IsEntry name) (hstraight : fs.Straight path) : (prepared fs path).Straight path := by
  obtain heq | hfresh := h.fresh
  · rwa [heq]
  · refine System.straight_of_leaf fun place node hfound => ?_
    obtain ⟨-, hget⟩ := (haims.resolve_eq_found_iff he).mp hfound
    rw [hfresh.get?_of_aims h.parent? haims he] at hget
    cases hget

/-- A path that is occupied once the directories are there was occupied before. -/
theorem eq_of_occupied (h : Ready fs path parent) (hoccupied : (prepared fs path).Occupied path) :
    prepared fs path = fs := by
  refine h.fresh.resolve_right fun hfresh => ?_
  obtain ⟨dir, name, node, haims, he, hget, -⟩ := hoccupied
  rw [hfresh.get?_of_aims h.parent? haims he] at hget
  cases hget

end Ready

/-! ## How storing ends -/

/-- How far storing comes, and what there is then. -/
inductive Ending (fs : System) (path : Path) (s : Settings) :
    System → Except StoreError Unit → Prop
  | refused {e : StoreError} : Ending fs path s fs (.error e)
  | blocked {parent : Path} {e : StoreError} : path.parent? = some parent →
    (fs.makeDirs parent).2 ≠ none → Ending fs path s (prepared fs path) (.error e)
  | unwritten {parent : Path} {e : StoreError} : path.parent? = some parent →
    (fs.makeDirs parent).2 = none → Ending fs path s (prepared fs path) (.error e)
  | unmoved {parent : Path} {written : System} {e : StoreError} {e' : Files.Error} :
    path.parent? = some parent → (fs.makeDirs parent).2 = none →
    (prepared fs path).write (temporary path) (Bytes.ofString s.toText) = .ok written →
    written.rename (temporary path) path = .error e' → Ending fs path s written (.error e)
  | stored {parent : Path} {written fs' : System} :
    path.parent? = some parent → (fs.makeDirs parent).2 = none →
    (prepared fs path).write (temporary path) (Bytes.ofString s.toText) = .ok written →
    written.rename (temporary path) path = .ok fs' → Ending fs path s fs' (.ok ())

theorem ending_store (fs : System) (path : Path) (s : Settings) :
    Ending fs path s (store fs path s).1 (store fs path s).2 := by
  unfold store
  split
  next => exact .refused
  next => exact .refused
  next parent _ hparent =>
    have hprepared : prepared fs path = (fs.makeDirs parent).1 := prepared_eq hparent
    split
    next made e hmade =>
      obtain rfl : prepared fs path = made := by rw [hprepared, hmade]
      exact .blocked hparent (by simp [hmade])
    next made hmade =>
      obtain rfl : prepared fs path = made := by rw [hprepared, hmade]
      have hnone : (fs.makeDirs parent).2 = none := by rw [hmade]
      split
      next => exact .unwritten hparent hnone
      next written hwrite =>
        split
        next e' hmove => exact .unmoved hparent hnone hwrite hmove
        next hmove => exact .stored hparent hnone hwrite hmove

theorem ready_of_makeDirs (hdots : [Path.dot, Path.dot] ∉ path.split)
    (hparent : path.parent? = some parent) (hnone : (fs.makeDirs parent).2 = none) :
    Ready fs path parent := by
  refine ⟨hparent, made_of_parent? hdots hparent, ?_⟩
  rw [prepared_eq hparent]
  exact (outcome_of_parent? hdots hparent).fresh hnone

/-! ## Success -/

/-- What was stored stands where the path aims, if neither the path is lost nor what is written. -/
theorem read_of_stored {written : System}
    (hwrite : (prepared fs path).write (temporary path) (Bytes.ofString s.toText) = .ok written)
    (hmove : written.rename (temporary path) path = .ok fs') (hready : Ready fs path parent)
    (hlink : (prepared fs path).Unlinked (temporary path))
    (hkeeps : (prepared fs path).Keeps (temporary path)) (hstraight : fs.Straight path) :
    fs'.read path = .ok (Bytes.ofString s.toText) := by
  obtain ⟨dir, name, node, hsource, he, hwithin, hget, hleaf, hkept, -⟩ :=
    System.exists_of_write hwrite hlink
  obtain ⟨d, n, hmoved⟩ := System.aims_of_rename hmove
  obtain rfl : name = n := hsource.name_eq hmoved
  obtain rfl : dir = d := hsource.dir_eq (hmoved.mono hwithin) he
  obtain ⟨dir', name', htarget, he', hshut, hget'⟩ :=
    System.exists_of_rename hmove hmoved he hget hleaf
  have hstraight' := hready.straight (htarget.mono hwithin) he' hstraight
  have haims : fs'.Aims path dir' name' := hstraight'.aims hwithin hshut htarget he'
  rw [haims.read he' hget' hleaf, hkept hkeeps]

/-! ## What changes -/

/-- What storing may change: what some paths name, and what becomes a directory above the path where
there was nothing. -/
inductive Touched (fs fs' : System) (path : Path) (paths : List Path) (place : Place) : Prop
  | named {p : Path} : p ∈ paths → (prepared fs path).Denotes p place →
    Touched fs fs' path paths place
  | made {parent above : Path} : path.parent? = some parent → above.Above parent →
    (prepared fs path).Reaches above place → fs.root.get? place = none →
    fs'.root.passAt place = some .dir → Touched fs fs' path paths place

theorem touched_of_alike {paths : List Path} {places : List Place}
    (hparent : path.parent? = some parent) (hmade : System.Made parent fs (prepared fs path))
    (halike : System.AlikeBut places (prepared fs path) fs')
    (hplaces : ∀ q ∈ places, ∃ p ∈ paths, (prepared fs path).Denotes p q) (q : Place) :
    fs'.root.bareAt q = fs.root.bareAt q ∨ Touched fs fs' path paths q := by
  by_cases hq : q ∈ places
  · obtain ⟨p, hp, hnamed⟩ := hplaces q hq
    exact .inr (.named hp hnamed)
  · rw [halike.bareAt q hq]
    refine (hmade.bareAt q).imp_right fun ⟨hnone, above, habove, hreaches⟩ => ?_
    exact .made hparent habove hreaches hnone ((halike.passAt hq).trans hreaches.isDir)

section Written
variable {written : System} {contents : Bytes}
  (hwrite : (prepared fs path).write (temporary path) contents = .ok written)
  (hlink : (prepared fs path).Unlinked (temporary path))
include hwrite hlink

/-- Where a file was written and could not be moved, there is no file that it should have
replaced. -/
theorem not_occupied_of_unmoved (hcoherent : (prepared fs path).Coherent) {e : Files.Error}
    (hmove : written.rename (temporary path) path = .error e) :
    ¬ (prepared fs path).Occupied path ∧ ¬ written.Occupied path := by
  obtain ⟨dir, name, node, haims, he, -, hget, -⟩ := System.exists_of_write hwrite hlink
  have hretains := System.retains_of_write hwrite hlink hcoherent
  have haims' : written.Aims (temporary path) dir name := haims.mono hretains.within
  have hunoccupied : ¬ written.Occupied path := by
    intro hoccupied
    obtain ⟨moved, hmoved⟩ :=
      System.rename_of_occupied ((haims'.resolve_eq_found_iff he).mpr ⟨rfl, hget⟩) hoccupied
    cases hmove.symm.trans hmoved
  exact ⟨fun hoccupied => hunoccupied (hoccupied.mono hretains), hunoccupied⟩

/-- A file that was written and moved is gone from the temporary path, and nothing has changed but
what the two paths name. -/
theorem alike_of_stored (hname : path.fileName? ≠ none)
    (hone : (prepared fs path).Unshared (temporary path))
    (hmove : written.rename (temporary path) path = .ok fs') :
    ∃ places, System.AlikeBut places (prepared fs path) fs' ∧
      (∀ q ∈ places, ∃ p ∈ [temporary path, path], (prepared fs path).Denotes p q) ∧
      ∀ place node, fs'.resolve false (temporary path) ≠ .ok (.found place node) := by
  obtain ⟨dir, name, node, haims, he, hpass, hget, hleaf, halike⟩ :=
    System.alike_of_write hwrite hlink hone
  have haims' : written.Aims (temporary path) dir name :=
    haims.mono (halike.within (by simpa using hpass))
  obtain ⟨dir', name', htarget, he', halike', hgone⟩ :=
    System.alike_of_rename hmove haims' he hget hleaf
  obtain ⟨_, _, _, _, _, hwithin, _⟩ := System.exists_of_write hwrite hlink
  obtain ⟨_, _, _, _, hshut, _⟩ := System.exists_of_rename hmove haims' he hget hleaf
  have hwithin' : System.Within fs' (prepared fs path) :=
    ⟨hshut.within.cwd.trans hwithin.cwd, fun q x hx =>
      hwithin.passAt q x (hshut.within.passAt q x hx)⟩
  have hne : dir ++ [name] ≠ dir' ++ [name'] := by
    intro heq
    obtain ⟨-, rfl⟩ := List.append_singleton_inj.mp heq
    exact (temporary_spec hname (haims.parent he).1).2 (htarget.parent he').1
  refine ⟨_, halike.trans halike', ?_, fun place found hfound => ?_⟩
  · simp only [List.singleton_append, List.mem_cons, List.not_mem_nil, or_false]
    rintro q (rfl | rfl | rfl)
    · exact ⟨_, .inl rfl, dir, name, haims, he, rfl⟩
    · exact ⟨_, .inl rfl, dir, name, haims, he, rfl⟩
    · exact ⟨_, .inr rfl, dir', name', htarget.mono hwithin, he', rfl⟩
  · obtain ⟨d, n, haims', -⟩ := System.aims_of_locate hfound
    obtain rfl : name = n := haims.name_eq haims'
    obtain rfl : dir = d := haims.dir_eq (haims'.mono hwithin') he
    obtain ⟨-, hfound⟩ := (haims'.resolve_eq_found_iff he).mp hfound
    rw [hgone hne] at hfound
    cases hfound

end Written

/-! ## Failure -/

theorem read_eq_of_not_occupied (hmade : System.Made parent fs (prepared fs path))
    (hbefore : ¬ (prepared fs path).Occupied path) (hafter : ¬ fs'.Occupied path) :
    (fs'.read path).toOption = (fs.read path).toOption := by
  rw [System.read_of_not_occupied hafter,
    System.read_of_not_occupied fun hoccupied => hbefore (hoccupied.mono hmade.retains)]

/-- Where the directories above it could not be made, a path is not occupied. -/
theorem not_occupied_of_blocked (hdots : [Path.dot, Path.dot] ∉ path.split)
    (hparent : path.parent? = some parent) (hsome : (fs.makeDirs parent).2 ≠ none) :
    ¬ (prepared fs path).Occupied path := by
  rintro ⟨dir, name, node, haims, he, -⟩
  obtain ⟨-, parent', hparent', hreaches⟩ := haims.parent he
  obtain rfl : parent = parent' := Option.some.inj (hparent.symm.trans hparent')
  have hne : parent ≠ [] := by
    rintro rfl
    rw [System.makeDirs_nil] at hsome
    exact hsome rfl
  rw [prepared_eq hparent] at hreaches
  exact (outcome_of_parent? hdots hparent).blocked hsome dir (hreaches hne)

section Error
variable {e : StoreError} (h : Ending fs path s fs' (.error e)) (hname : path.fileName? ≠ none)
  (hdots : [Path.dot, Path.dot] ∉ path.split) (hlink : fs.Unlinked (temporary path))
include h hname hdots hlink

/-- After a failure what is read at the path is what was read before. -/
theorem read_of_error (hcoherent : fs.Coherent) :
    (fs'.read path).toOption = (fs.read path).toOption := by
  cases h with
  | refused => rfl
  | blocked hparent hsome =>
    have hnot := not_occupied_of_blocked hdots hparent hsome
    exact read_eq_of_not_occupied (made_of_parent? hdots hparent) hnot hnot
  | unwritten hparent hnone =>
    have hready := ready_of_makeDirs hdots hparent hnone
    by_cases hoccupied : (prepared fs path).Occupied path
    · rw [hready.eq_of_occupied hoccupied]
    · exact read_eq_of_not_occupied hready.made hoccupied hoccupied
  | unmoved hparent hnone hwrite hmove =>
    have hready := ready_of_makeDirs hdots hparent hnone
    obtain ⟨hbefore, hafter⟩ := not_occupied_of_unmoved hwrite (hready.unlinked hname hlink)
      (hcoherent.made hready.made) hmove
    exact read_eq_of_not_occupied hready.made hbefore hafter

theorem touched_of_error (hone : fs.Unshared (temporary path)) (place : Place) :
    fs'.root.bareAt place = fs.root.bareAt place ∨
      Touched fs fs' path [temporary path] place := by
  cases h with
  | refused => exact .inl rfl
  | blocked hparent =>
    exact touched_of_alike hparent (made_of_parent? hdots hparent) (.refl [] _) (by simp) place
  | unwritten hparent =>
    exact touched_of_alike hparent (made_of_parent? hdots hparent) (.refl [] _) (by simp) place
  | unmoved hparent hnone hwrite =>
    have hready := ready_of_makeDirs hdots hparent hnone
    obtain ⟨dir, name, _, haims, he, -, -, -, halike⟩ := System.alike_of_write hwrite
      (hready.unlinked hname hlink) (hready.unshared hname hone)
    have hnamed : (prepared fs path).Denotes (temporary path) (dir ++ [name]) :=
      ⟨dir, name, haims, he, rfl⟩
    exact touched_of_alike hparent hready.made halike (by simpa using hnamed) place

end Error

/-! ## All or nothing -/

def device (name : String) : Name × Node :=
  (Path.ofString name, .device { mode := 0o666, changed := 0 })

/-- A file that stands under several names. -/
def shared (name : String) (contents : Bytes) : Name × Node :=
  (Path.ofString name, .file { mode := 0o644, changed := 0, number := some 1 } contents)

theorem ofString_toText_ne_nil (h : s ≠ default) : Bytes.ofString s.toText ≠ [] := by
  intro hnil
  have htext : s.toText = "" := by
    have hread := Bytes.text?_ofString s.toText
    rw [hnil] at hread
    exact (Option.some.inj hread).symm
  have hsettings := ofText?_toText s
  rw [htext, ofText?_empty] at hsettings
  exact h (Option.some.inj hsettings).symm

theorem store_in_empty :
    store (directory []) (Path.ofString "y") quoting =
      (directory [file "y" (Bytes.ofString quoting.toText)], .ok ()) := by
  have hwrite (b : Bytes) : (directory []).write (temporary (Path.ofString "y")) b =
      .ok (directory [file "y.toml.tmp" b]) := by
    cbv
  have hmove (b : Bytes) : (directory [file "y.toml.tmp" b]).rename
      (temporary (Path.ofString "y")) (Path.ofString "y") = .ok (directory [file "y" b]) := by
    cbv
  exact store_of_moved (by decide) (by decide) (System.makeDirs_nil _) (hwrite _) (hmove _)

/-- Settings are not stored in the place of a directory; the temporary file stays. -/
theorem store_over_directory :
    store (directory [subdirectory "y"]) (Path.ofString "y") quoting =
      (directory [subdirectory "y", file "y.toml.tmp" (Bytes.ofString quoting.toText)],
        .error (.replace (Path.ofString "y") .isDirectory)) := by
  have hfault : quoting.fault? = none := by decide
  have hparent : (Path.ofString "y").parent? = some [] := by decide
  have hwrite (b : Bytes) :
      (directory [subdirectory "y"]).write (temporary (Path.ofString "y")) b =
        .ok (directory [subdirectory "y", file "y.toml.tmp" b]) := by
    cbv
  have hmove (b : Bytes) : (directory [subdirectory "y", file "y.toml.tmp" b]).rename
      (temporary (Path.ofString "y")) (Path.ofString "y") = .error .isDirectory := by
    cbv
  simp only [store, hfault, hparent, System.makeDirs_nil, hwrite, hmove]

/-- Settings are stored through the link that they replace. -/
theorem store_through_link :
    store (directory [link "x" "."]) (Path.ofString "x/x") quoting =
      (directory [file "x" (Bytes.ofString quoting.toText)], .ok ()) := by
  have hmade : (directory [link "x" "."]).makeDirs (Path.ofString "x") =
      (directory [link "x" "."], none) := by
    cbv
  have hwrite (b : Bytes) :
      (directory [link "x" "."]).write (temporary (Path.ofString "x/x")) b =
        .ok (directory [link "x" ".", file "x.toml.tmp" b]) := by
    cbv
  have hmove (b : Bytes) :
      (directory [link "x" ".", file "x.toml.tmp" b]).rename (temporary (Path.ofString "x/x"))
        (Path.ofString "x/x") = .ok (directory [file "x" b]) := by
    cbv
  exact store_of_moved (by decide) (by decide) hmade (hwrite _) (hmove _)

/-- Settings are written to a device, which is moved. -/
theorem store_to_device :
    store (directory [device "y.toml.tmp"]) (Path.ofString "y") quoting =
      (directory [device "y"], .ok ()) := by
  have hwrite (b : Bytes) :
      (directory [device "y.toml.tmp"]).write (temporary (Path.ofString "y")) b =
        .ok (directory [device "y.toml.tmp"]) := by
    cbv
  have hmove : (directory [device "y.toml.tmp"]).rename (temporary (Path.ofString "y"))
      (Path.ofString "y") = .ok (directory [device "y"]) := by
    cbv
  exact store_of_moved (by decide) (by decide) (System.makeDirs_nil _) (hwrite _) hmove

/-- Settings are written to a temporary file under its second name too. -/
theorem store_to_shared :
    store (directory [shared "y.toml.tmp" [], shared "z" []]) (Path.ofString "y") quoting =
      (directory [shared "z" (Bytes.ofString quoting.toText),
        shared "y" (Bytes.ofString quoting.toText)], .ok ()) := by
  have hwrite (b : Bytes) : (directory [shared "y.toml.tmp" [], shared "z" []]).write
      (temporary (Path.ofString "y")) b =
        .ok (directory [shared "y.toml.tmp" b, shared "z" b]) := by
    cbv
  have hmove (b : Bytes) : (directory [shared "y.toml.tmp" b, shared "z" b]).rename
      (temporary (Path.ofString "y")) (Path.ofString "y") =
        .ok (directory [shared "z" b, shared "y" b]) := by
    cbv
  exact store_of_moved (by decide) (by decide) (System.makeDirs_nil _) (hwrite _) (hmove _)

end Scratchpad.Settings
