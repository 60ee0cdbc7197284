import Scratchpad.Proofs.Files.Directories
import Scratchpad.Proofs.Library
import Scratchpad.Proofs.Text

/-!
# The files that the library holds

A file of a directory is eligible if its name without extension is text that does not begin with a
dot; what its path leads to must be a file, be it through links. The library can be loaded if and
only if all eligible files hold text, and has one entry for each of them then, in the order of the
bytes of their names.
-/

namespace Scratchpad.Library

open Files (Name Node Path System)

variable {fs : System} {dir : Path} {name : Name} {title : String} {contents : Bytes}

/-- The title of an entry is the name of its file without the extension, which is text and does not
begin with a dot. -/
structure Titled (name : Name) (title : String) : Prop where
  stem : Path.IsStem name (Bytes.ofString title)
  visible : ¬ ['.'] <+: title.toList

/-- The path of a name in a directory leads to a file with these contents, perhaps through links, and
there is a title for it. -/
structure Eligible (fs : System) (dir : Path) (name : Name) (title : String) (contents : Bytes) : Prop
    extends Titled name title where
  file : ∃ t, fs.node? (dir.join name) = .ok (.file t contents)

def IsEligible (fs : System) (dir : Path) (name : Name) : Prop :=
  ∃ title contents, Eligible fs dir name title contents

/-- An entry shows a file: it has its name without extension and its contents. -/
def Shows (fs : System) (dir : Path) (name : Name) (e : Entry) : Prop :=
  Eligible fs dir name e.name (Bytes.ofString e.value)

/-- What stands in the directory under a name decides whether it is eligible, unless that is a link. -/
theorem eligible_iff_of_get? {d : Files.Place} {n : Node} (hdir : fs.Reaches dir d)
    (hname : System.Listed name) (hlength : (dir.join name).length < System.pathLimit)
    (hget : fs.root.get? (d ++ [name]) = some n) (hlink : n.isLink = false) :
    Eligible fs dir name title contents ↔ Titled name title ∧ ∃ t, n = .file t contents := by
  have hnode := System.node?_join hdir hname hlength hget hlink
  constructor
  · rintro ⟨htitled, t, hfile⟩
    exact ⟨htitled, t, Except.ok.inj (hnode.symm.trans hfile)⟩
  · rintro ⟨htitled, t, rfl⟩
    exact ⟨htitled, t, hnode⟩

/-! ## One name -/

theorem entryName?_eq_some_iff : entryName? name = some title ↔ Titled name title := by
  have hdot (s : String) : s.startsWith "." = true ↔ ['.'] <+: s.toList :=
    String.startsWith_string_iff
  unfold entryName?
  rw [Option.bind_eq_bind, Option.bind_eq_some_iff]
  simp only [Bytes.text?_eq_some_iff, Path.stemOf_eq_iff, hdot]
  constructor
  · rintro ⟨stem, hstem, htitle⟩
    split at htitle
    next => cases htitle
    next hvisible =>
      cases htitle
      exact ⟨hstem, hvisible⟩
  · rintro ⟨hstem, hvisible⟩
    exact ⟨title, hstem, if_neg hvisible⟩

theorem isFile_iff {p : Path} :
    fs.isFile p = true ↔ ∃ t contents, fs.node? p = .ok (.file t contents) := by
  unfold System.isFile
  cases fs.node? p with
  | error e => simp
  | ok n => cases n <;> simp

theorem readText_of_file {p : Path} {t : Files.Traits} (h : fs.node? p = .ok (.file t contents)) :
    fs.readText p = contents.text?.elim (.error .notText) .ok := by
  have hread : fs.read p = .ok contents := by
    rw [System.read, h]
    rfl
  simp only [System.readText, hread, bind, Except.bind]
  cases contents.text? <;> rfl

theorem Eligible.readEntry (h : Eligible fs dir name title contents) :
    readEntry fs dir name = contents.text?.elim (.error ⟨dir.join name, .notText⟩) fun value =>
      .ok (some ⟨title, value⟩) := by
  obtain ⟨t, hfile⟩ := h.file
  rw [Library.readEntry, if_pos (isFile_iff.mpr ⟨t, contents, hfile⟩),
    entryName?_eq_some_iff.mpr h.toTitled, readText_of_file hfile]
  cases contents.text? <;> rfl

theorem readEntry_of_not_eligible (h : ¬ IsEligible fs dir name) :
    readEntry fs dir name = .ok none := by
  rw [readEntry]
  split
  next hfile =>
    obtain ⟨t, contents, hfile⟩ := isFile_iff.mp hfile
    cases hname : entryName? name with
    | none => rfl
    | some title => exact absurd ⟨title, contents, entryName?_eq_some_iff.mp hname, t, hfile⟩ h
  next => rfl

theorem readEntry_eq_none_iff :
    readEntry fs dir name = .ok none ↔ ¬ IsEligible fs dir name := by
  refine ⟨?_, readEntry_of_not_eligible⟩
  rintro h ⟨title, contents, heligible⟩
  rw [heligible.readEntry] at h
  cases htext : contents.text? <;> rw [htext] at h <;> cases h

/-- The entry read of a name is that of an eligible file, whose contents are its text. -/
theorem readEntry_eq_some_iff {e : Entry} :
    readEntry fs dir name = .ok (some e) ↔ Shows fs dir name e := by
  constructor
  · intro h
    by_cases heligible : IsEligible fs dir name
    · obtain ⟨title, contents, heligible⟩ := heligible
      rw [heligible.readEntry] at h
      cases htext : contents.text? with
      | none =>
        rw [htext] at h
        cases h
      | some value =>
        rw [htext] at h
        cases h
        rwa [Shows, ← Bytes.text?_eq_some_iff.mp htext]
    · rw [readEntry_of_not_eligible heligible] at h
      cases h
  · intro h
    rw [Eligible.readEntry h, Bytes.text?_ofString]
    rfl

/-- A name can be read unless it is that of an eligible file whose contents are no text. -/
theorem exists_readEntry_iff :
    (∃ item?, readEntry fs dir name = .ok item?) ↔
      ∀ title contents, Eligible fs dir name title contents →
        ∃ text, contents = Bytes.ofString text := by
  constructor
  · rintro ⟨item?, h⟩ title contents heligible
    rw [heligible.readEntry] at h
    cases htext : contents.text? with
    | none =>
      rw [htext] at h
      cases h
    | some value => exact ⟨value, Bytes.text?_eq_some_iff.mp htext⟩
  · intro h
    by_cases heligible : IsEligible fs dir name
    · obtain ⟨title, contents, heligible⟩ := heligible
      obtain ⟨text, rfl⟩ := h title contents heligible
      exact ⟨some ⟨title, text⟩, readEntry_eq_some_iff.mpr heligible⟩
    · exact ⟨none, readEntry_of_not_eligible heligible⟩

instance (fs : System) (dir : Path) : DecidablePred (IsEligible fs dir) := fun name =>
  decidable_of_iff (fs.isFile (dir.join name) = true ∧ (entryName? name).isSome) (by
    simp only [isFile_iff, Option.isSome_iff_exists, entryName?_eq_some_iff]
    constructor
    · rintro ⟨⟨t, contents, hfile⟩, title, htitled⟩
      exact ⟨title, contents, htitled, t, hfile⟩
    · rintro ⟨title, contents, htitled, t, hfile⟩
      exact ⟨⟨t, contents, hfile⟩, title, htitled⟩)

/-- A file without a name has the path of a directory. -/
theorem IsEligible.ne_nil (h : IsEligible fs dir name) : name ≠ [] := by
  rintro rfl
  obtain ⟨title, contents, heligible⟩ := h
  obtain ⟨t, hfile⟩ := heligible.file
  have hdir : dir ≠ [] := by
    rintro rfl
    cases hfile
  cases System.isDir_of_endsInSlash (Path.endsInSlash_join_nil hdir) hfile

theorem Eligible.title_ne_empty (h : Eligible fs dir name title contents) : title ≠ "" := by
  rintro rfl
  exact h.stem.ne_nil (IsEligible.ne_nil ⟨_, _, h⟩) rfl

/-! ## All names of a directory -/

theorem exists_mapM_iff {α β ε : Type} {f : α → Except ε β} {xs : List α} :
    (∃ ys, xs.mapM f = .ok ys) ↔ ∀ x ∈ xs, ∃ y, f x = .ok y := by
  induction xs with
  | nil => exact ⟨fun _ => by simp, fun _ => ⟨[], rfl⟩⟩
  | cons x xs ih =>
    simp only [mapM_cons_eq_ok_iff, List.forall_mem_cons, ← ih]
    constructor
    · rintro ⟨_, y, rest, hy, hrest, rfl⟩
      exact ⟨⟨y, hy⟩, rest, hrest⟩
    · rintro ⟨⟨y, hy⟩, rest, hrest⟩
      exact ⟨_, y, rest, hy, hrest, rfl⟩

/-- All eligible files among some names are shown, in the order of the names. -/
theorem shows_of_mapM {names : List Name} {found : List (Option Entry)}
    (h : names.mapM (readEntry fs dir) = .ok found) :
    List.Forall₂ (Shows fs dir) (names.filter (IsEligible fs dir)) (found.filterMap id) := by
  induction names generalizing found with
  | nil =>
    cases h
    exact .nil
  | cons name names ih =>
    obtain ⟨item?, rest, hentry, hrest, hfound⟩ := mapM_cons_eq_ok_iff.mp h
    rw [hfound]
    cases item? with
    | some e =>
      have hshows : Shows fs dir name e := readEntry_eq_some_iff.mp hentry
      have heligible : IsEligible fs dir name := ⟨_, _, hshows⟩
      rw [List.filter_cons, if_pos (decide_eq_true heligible),
        List.filterMap_cons_some (f := id) rfl]
      exact .cons hshows (ih hrest)
    | none =>
      have heligible : ¬ IsEligible fs dir name := readEntry_eq_none_iff.mp hentry
      rw [List.filter_cons, if_neg (by rwa [decide_eq_true_eq]),
        List.filterMap_cons_none (f := id) rfl]
      exact ih hrest

/-! ## The library -/

/-- Some entries are those of the names in a directory: one for each eligible file, in the order of
the bytes of their names, none of which is empty. -/
structure Holds (fs : System) (dir : Path) (names : List Name) (entries : List Entry) : Prop where
  perm : ∃ found, entries.Perm found ∧
    List.Forall₂ (Shows fs dir) (names.filter (IsEligible fs dir)) found
  sorted : entries.Pairwise fun a b => Bytes.ofString a.name ≤ Bytes.ofString b.name
  named : ∀ e ∈ entries, e.name ≠ ""

theorem holds_of_mapM {names : List Name} {found : List (Option Entry)}
    (h : names.mapM (readEntry fs dir) = .ok found) :
    Holds fs dir names ((found.filterMap id).mergeSort byName) where
  perm := ⟨_, List.mergeSort_perm .., shows_of_mapM h⟩
  sorted := (pairwise_mergeSort_byName _).imp Bytes.ofString_le_iff.mpr
  named e he := by
    have hshows : List.Forall₂ (fun e name => e.name ≠ "" ∧ Shows fs dir name e)
        (found.filterMap id) (names.filter (IsEligible fs dir)) :=
      (shows_of_mapM h).flip.imp fun _ _ hshows => ⟨hshows.title_ne_empty, hshows⟩
    exact ((List.forall₂_and_left _ _).mp hshows).1 e ((List.mergeSort_perm ..).mem_iff.mp he)

theorem load_of_missing (h : ∀ node, fs.node? dir ≠ .ok node) : (load fs dir).1 = .ok [] := by
  have hexists : ¬ fs.pathExists dir = true := by
    unfold System.pathExists
    cases hnode : fs.node? dir with
    | error e => exact Bool.false_ne_true
    | ok node => exact absurd hnode (h node)
  rw [load, if_neg hexists]

theorem load_of_not_dir {node : Node} (h : fs.node? dir = .ok node) (hdir : node.isDir = false) :
    (load fs dir).1 = .error ⟨dir, .notDirectory⟩ := by
  have hexists : fs.pathExists dir = true := by rw [System.pathExists, h]
  have hlist : fs.list dir = .error .notDirectory := by
    rw [System.list, h]
    cases node with
    | dir => cases hdir
    | _ => rfl
  rw [load, if_pos hexists, hlist]

theorem load_of_dir {t : Files.Traits} {children : List (Name × Node)}
    (h : fs.node? dir = .ok (.dir t children)) :
    (load fs dir).1 = ((children.map (·.1)).mapM (readEntry fs dir)).map fun found =>
      (found.filterMap id).mergeSort byName := by
  have hexists : fs.pathExists dir = true := by rw [System.pathExists, h]
  have hlist : fs.list dir = .ok (children.map (·.1)) := by
    rw [System.list, h]
    rfl
  rw [load, if_pos hexists, hlist]

/-- The library of a directory has an entry for each eligible file, in the order of the bytes of their
names, whatever the order in which the directory lists them, and can be loaded unless one of these files
holds no text. What is no directory cannot be loaded, and where there is nothing there are no entries. -/
theorem load_eligible (fs : System) (dir : Path) :
    ((∀ node, fs.node? dir ≠ .ok node) → (load fs dir).1 = .ok []) ∧
    (∀ node, fs.node? dir = .ok node → node.isDir = false → ∃ e, (load fs dir).1 = .error e) ∧
    ∀ t children, fs.node? dir = .ok (.dir t children) →
      ((∃ entries, (load fs dir).1 = .ok entries) ↔
        ∀ child ∈ children, ∀ title contents, Eligible fs dir child.1 title contents →
          ∃ text, contents = Bytes.ofString text) ∧
      ∀ entries, (load fs dir).1 = .ok entries → Holds fs dir (children.map (·.1)) entries := by
  refine ⟨load_of_missing, fun node h hdir => ⟨_, load_of_not_dir h hdir⟩, fun t children h => ?_⟩
  have hreadable : (∃ found, (children.map (·.1)).mapM (readEntry fs dir) = .ok found) ↔
      ∀ child ∈ children, ∀ title contents, Eligible fs dir child.1 title contents →
        ∃ text, contents = Bytes.ofString text := by
    rw [exists_mapM_iff, List.forall_mem_map]
    simp only [exists_readEntry_iff]
  rw [load_of_dir h, ← hreadable]
  cases hfound : (children.map (·.1)).mapM (readEntry fs dir) with
  | error e =>
    refine ⟨?_, fun entries h => by cases h⟩
    simp [Except.map]
  | ok found =>
    refine ⟨⟨fun _ => ⟨found, rfl⟩, fun _ => ⟨_, rfl⟩⟩, fun entries h => ?_⟩
    cases h
    exact holds_of_mapM hfound

/-- A directory with two files of one title, one of them through a link, and some entries that are not
eligible. -/
def gallery : System :=
  let t : Files.Traits := { mode := 0o644, changed := 0 }
  { root := .dir t [
      (Path.ofString "c.d.e", .file t (Bytes.ofString "3")),
      (Path.ofString "a.y", .link t (Path.ofString "a.x")),
      (Path.ofString ".b", .file t (Bytes.ofString "4")),
      (Path.ofString "gone", .link t (Path.ofString "nothing")),
      (Path.ofString "a.x", .file t (Bytes.ofString "1")),
      (Path.ofString "sub", .dir t [])]
    cwd := []
    now := 0
    mask := 0o22 }

theorem load_eligible_of_gallery :
    (load gallery (Path.ofString "none")).1 = .ok [] ∧
    (∃ e, (load gallery (Path.ofString "a.x")).1 = .error e) ∧
    (load gallery (Path.ofString ".")).1 = .ok [⟨"a", "1"⟩, ⟨"a", "1"⟩, ⟨"c.d", "3"⟩] ∧
    Holds gallery (Path.ofString ".") (gallery.root.entries.map (·.1))
      [⟨"a", "1"⟩, ⟨"a", "1"⟩, ⟨"c.d", "3"⟩] := by
  have hload : (load gallery (Path.ofString ".")).1 =
      .ok [⟨"a", "1"⟩, ⟨"a", "1"⟩, ⟨"c.d", "3"⟩] := by
    cbv
  have hmissing (node : Node) : gallery.node? (Path.ofString "none") ≠ .ok node := by
    have herror : gallery.node? (Path.ofString "none") = .error .noEntry := by
      cbv
    intro h
    cases herror.symm.trans h
  have hfile : gallery.node? (Path.ofString "a.x") =
      .ok (.file { mode := 0o644, changed := 0 } (Bytes.ofString "1")) := by
    cbv
  have hdir : gallery.node? (Path.ofString ".") =
      .ok (.dir { mode := 0o644, changed := 0 } gallery.root.entries) := by
    cbv
  exact ⟨(load_eligible gallery _).1 hmissing, (load_eligible gallery _).2.1 _ hfile rfl, hload,
    ((load_eligible gallery _).2.2 _ _ hdir).2 _ hload⟩

end Scratchpad.Library
