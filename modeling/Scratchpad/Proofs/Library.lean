import Scratchpad.Library
import Scratchpad.Proofs.Files.Frame

/-!
# The library and the order of a directory

The operating system lists a directory in an order of its own. What the library reads of a file does
not depend on it, and neither does whether all can be read; the entries are then sorted by name. So
two orders of the same directory give the same names in the same order. Files whose names differ in
the extension alone share a name, and their entries stay in the order in which they were listed.
-/

namespace Scratchpad

namespace Files
open Node (bare bareAt)

namespace Node

def names (n : Node) : List Name :=
  n.entries.map (·.1)

theorem names_modify_dir (f : Node → Node) (t : Traits) (entries : List (Name × Node)) (name : Name)
    (rest : Place) : ((dir t entries).modify f (name :: rest)).names = (dir t entries).names := by
  rw [modify, names, names, Node.entries, Node.entries, List.map_map]
  refine List.map_congr_left fun e _ => ?_
  rw [Function.comp_apply]
  split <;> rfl

/-- A change at a place leaves the names in all other directories. -/
theorem names_of_get?_modify {f : Node → Node} {root n n' : Node} {p q : Place} (hq : ¬ p <+: q)
    (h : root.get? q = some n) (h' : (root.modify f p).get? q = some n') : n'.names = n.names := by
  induction p generalizing root q with
  | nil => exact absurd List.nil_prefix hq
  | cons name rest ih =>
    cases root with
    | dir t entries =>
      cases q with
      | nil =>
        cases h
        cases h'
        exact names_modify_dir f t entries name rest
      | cons key q =>
        rw [modify, get?_dir_cons, lookup_map_change (modify f · rest)] at h'
        rw [get?_dir_cons] at h
        obtain ⟨m, hm, hget⟩ := Option.bind_eq_some_iff.mp h
        rw [hm] at h'
        split at h'
        next hkey =>
          subst hkey
          rw [List.prefix_cons_inj] at hq
          exact ih hq hget h'
        next =>
          rw [Option.bind_some, hget] at h'
          cases h'
          rfl
    | _ =>
      cases h.symm.trans h'
      rfl

/-- Entries with different names are found in any order. -/
theorem lookup_perm {entries entries' : List (Name × Node)} (h : entries'.Perm entries)
    (hdistinct : (entries.map (·.1)).Nodup) (key : Name) :
    entries'.lookup key = entries.lookup key := by
  induction h with
  | nil => rfl
  | cons e _ ih => grind
  | swap e e' _ => grind
  | trans _ h' ih ih' => exact (ih ((h'.map _).nodup_iff.mpr hdistinct)).trans (ih' hdistinct)

end Node

namespace System
variable {fs fs' : System} {p : Path} {place : Place}

/-- The same stands at the same places, but directories may be listed in another order. -/
structure Relisted (fs fs' : System) : Prop where
  cwd : fs'.cwd = fs.cwd
  bareAt : ∀ place, fs'.root.bareAt place = fs.root.bareAt place
  names : ∀ place n n', fs.root.get? place = some n → fs'.root.get? place = some n' →
    n'.names.Perm n.names

/-- A directory lists its entries in another order. -/
theorem relisted_of_perm {t : Traits} {entries entries' : List (Name × Node)}
    (hget : fs.root.get? place = some (.dir t entries)) (hdistinct : (entries.map (·.1)).Nodup)
    (hperm : entries'.Perm entries) :
    Relisted fs { fs with root := fs.root.modify (fun _ => .dir t entries') place } where
  cwd := rfl
  bareAt q := by
    by_cases hq : place <+: q
    · obtain ⟨rest, rfl⟩ := hq
      rw [Node.bareAt, Node.get?_modify_append, Node.bareAt, Node.get?_append, hget]
      cases rest with
      | nil => rfl
      | cons key rest =>
        rw [Option.bind_some, Option.bind_some, Node.get?_dir_cons, Node.get?_dir_cons,
          Node.lookup_perm hperm hdistinct]
    · exact Node.bareAt_modify_elsewhere _ fs.root hq
  names q n n' hn hn' := by
    by_cases hq : place <+: q
    · obtain ⟨rest, rfl⟩ := hq
      rw [Node.get?_append, hget, Option.bind_some] at hn
      rw [Node.get?_modify_append, hget, Option.bind_some] at hn'
      cases rest with
      | nil =>
        cases hn
        cases hn'
        exact hperm.map _
      | cons key rest =>
        rw [Node.get?_dir_cons] at hn hn'
        rw [Node.lookup_perm hperm hdistinct, hn] at hn'
        cases hn'
        rfl
    · exact .of_eq (Node.names_of_get?_modify hq hn hn')

namespace Relisted

theorem symm (h : Relisted fs fs') : Relisted fs' fs where
  cwd := h.cwd.symm
  bareAt place := (h.bareAt place).symm
  names place n n' hn hn' := (h.names place n' n hn' hn).symm

theorem kept (h : Relisted fs fs') : Node.Kept fs.root fs'.root :=
  fun place _ hn => (h.bareAt place).trans hn

/-- A path leads to the same node in both, listed in another order. -/
theorem node?_of_ok (h : Relisted fs fs') {n : Node} (hn : fs.node? p = .ok n) :
    ∃ n', fs'.node? p = .ok n' ∧ n'.bare = n.bare ∧ n'.names.Perm n.names := by
  obtain ⟨target, hresolve, hn⟩ := ok_of_bind hn
  cases target with
  | absent => cases hn
  | found place m =>
    cases hn
    obtain ⟨n', hresolve', hbare⟩ := resolve_of_kept h.cwd h.kept hresolve
    refine ⟨n', by rw [node?, hresolve']; rfl, hbare, ?_⟩
    exact h.names place n n' (get?_of_resolve hresolve) (get?_of_resolve hresolve')

theorem node?_cases (h : Relisted fs fs') (p : Path) :
    (∃ n n', fs.node? p = .ok n ∧ fs'.node? p = .ok n' ∧ n'.bare = n.bare ∧
      n'.names.Perm n.names) ∨
    ∃ e e', fs.node? p = .error e ∧ fs'.node? p = .error e' := by
  cases hn : fs.node? p with
  | ok n =>
    obtain ⟨n', hn', hbare, hnames⟩ := h.node?_of_ok hn
    exact .inl ⟨n, n', rfl, hn', hbare, hnames⟩
  | error e =>
    cases hn' : fs'.node? p with
    | ok n' =>
      obtain ⟨n, hn₀, _⟩ := h.symm.node?_of_ok hn'
      cases hn.symm.trans hn₀
    | error e' => exact .inr ⟨e, e', rfl, rfl⟩

theorem pathExists (h : Relisted fs fs') (p : Path) : fs'.pathExists p = fs.pathExists p := by
  unfold System.pathExists
  obtain ⟨n, n', hn, hn', _⟩ | ⟨e, e', he, he'⟩ := h.node?_cases p
  · rw [hn, hn']
  · rw [he, he']

theorem isFile (h : Relisted fs fs') (p : Path) : fs'.isFile p = fs.isFile p := by
  unfold System.isFile
  obtain ⟨n, n', hn, hn', hbare, _⟩ | ⟨e, e', he, he'⟩ := h.node?_cases p
  · rw [hn, hn']
    cases n <;> cases n' <;> first | rfl | cases hbare
  · rw [he, he']

theorem readText (h : Relisted fs fs') (hp : fs.isFile p = true) :
    fs'.readText p = fs.readText p := by
  obtain ⟨n, n', hn, hn', hbare, _⟩ | ⟨e, _, he, _⟩ := h.node?_cases p
  · have hfile : n.isDir = false := by
      rw [System.isFile, hn] at hp
      cases n <;> first | rfl | cases hp
    rw [System.readText, System.readText, read, read, hn, hn', Node.eq_of_bare hbare hfile]
  · rw [System.isFile, he] at hp
    cases hp

/-- A directory has the same names in both; what is no directory can be listed in neither. -/
theorem list_cases (h : Relisted fs fs') (hp : fs.pathExists p = true) :
    (∃ names names', fs.list p = .ok names ∧ fs'.list p = .ok names' ∧ names'.Perm names) ∨
      ∃ e, fs.list p = .error e ∧ fs'.list p = .error e := by
  obtain ⟨n, n', hn, hn', hbare, hnames⟩ | ⟨e, _, he, _⟩ := h.node?_cases p
  · rw [list, list, hn, hn']
    cases n with
    | dir t entries =>
      cases n' with
      | dir t' entries' => exact .inl ⟨_, _, rfl, rfl, hnames⟩
      | _ => cases hbare
    | _ =>
      rw [Node.eq_of_bare hbare rfl]
      exact .inr ⟨_, rfl, rfl⟩
  · rw [System.pathExists, he] at hp
    cases hp

end Relisted

end System

end Files

namespace Library
open Files (Path System Name)
variable {fs fs' : System} {dir : Path}

theorem readEntry_relisted (h : System.Relisted fs fs') (name : Name) :
    readEntry fs' dir name = readEntry fs dir name := by
  rw [readEntry, readEntry, h.isFile]
  split
  next hfile => rw [h.readText hfile]
  next => rfl

/-! ## Entries read in some order -/

section Reading
variable {α β ε : Type} {f : α → Except ε β} {xs xs' : List α} {ys : List β}

theorem mapM_cons_eq_ok_iff {x : α} :
    (x :: xs).mapM f = .ok ys ↔ ∃ y rest, f x = .ok y ∧ xs.mapM f = .ok rest ∧ ys = y :: rest := by
  rw [List.mapM_cons]
  cases f x with
  | error e => simp [bind, Except.bind]
  | ok y =>
    cases xs.mapM f with
    | error e => simp [bind, Except.bind]
    | ok rest => simp [bind, Except.bind, pure, Except.pure, eq_comm]

/-- What succeeds for all members of a list succeeds for them in any order. -/
theorem mapM_perm (hperm : xs.Perm xs') (h : xs.mapM f = .ok ys) :
    ∃ ys', xs'.mapM f = .ok ys' ∧ ys'.Perm ys := by
  induction hperm generalizing ys with
  | nil => exact ⟨ys, h, .refl ys⟩
  | cons x _ ih =>
    obtain ⟨y, rest, hy, hrest, rfl⟩ := mapM_cons_eq_ok_iff.mp h
    obtain ⟨rest', hrest', hperm⟩ := ih hrest
    exact ⟨y :: rest', mapM_cons_eq_ok_iff.mpr ⟨y, rest', hy, hrest', rfl⟩, hperm.cons y⟩
  | swap x x' xs =>
    obtain ⟨y, _, hy, htail, rfl⟩ := mapM_cons_eq_ok_iff.mp h
    obtain ⟨y', rest, hy', hrest, rfl⟩ := mapM_cons_eq_ok_iff.mp htail
    have htail' := mapM_cons_eq_ok_iff.mpr ⟨y, rest, hy, hrest, rfl⟩
    exact ⟨_, mapM_cons_eq_ok_iff.mpr ⟨y', _, hy', htail', rfl⟩, .swap ..⟩
  | trans _ _ ih ih' =>
    obtain ⟨ys', hys', hperm⟩ := ih h
    obtain ⟨ys'', hys'', hperm'⟩ := ih' hys'
    exact ⟨ys'', hys'', hperm'.trans hperm⟩

theorem mapM_perm_cases (f : α → Except ε β) (hperm : xs.Perm xs') :
    (∃ ys ys', xs.mapM f = .ok ys ∧ xs'.mapM f = .ok ys' ∧ ys'.Perm ys) ∨
      ∃ e e', xs.mapM f = .error e ∧ xs'.mapM f = .error e' := by
  cases h : xs.mapM f with
  | ok ys =>
    obtain ⟨ys', h', hys⟩ := mapM_perm hperm h
    exact .inl ⟨ys, ys', rfl, h', hys⟩
  | error e =>
    cases h' : xs'.mapM f with
    | ok ys' =>
      obtain ⟨ys, h₀, _⟩ := mapM_perm hperm.symm h'
      cases h.symm.trans h₀
    | error e' => exact .inr ⟨e, e', rfl, rfl⟩

end Reading

/-! ## Entries sorted by name -/

theorem pairwise_mergeSort_byName (entries : List Entry) :
    (entries.mergeSort byName).Pairwise fun a b => a.name ≤ b.name := by
  have htrans (a b c : Entry) (hab : byName a b = true) (hbc : byName b c = true) :
      byName a c = true :=
    decide_eq_true (String.le_trans (of_decide_eq_true hab) (of_decide_eq_true hbc))
  have htotal (a b : Entry) : (byName a b || byName b a) = true := by
    simpa [byName] using String.le_total a.name b.name
  exact (List.pairwise_mergeSort htrans htotal entries).imp fun h => of_decide_eq_true h

theorem mergeSort_byName_perm {entries entries' : List Entry} (h : entries'.Perm entries) :
    (entries'.mergeSort byName).Perm (entries.mergeSort byName) :=
  (List.mergeSort_perm ..).trans (h.trans (List.mergeSort_perm ..).symm)

/-- Two sorted lists of the same entries have the same names in the same order. -/
theorem map_name_eq_of_perm {entries entries' : List Entry} (h : entries'.Perm entries)
    (hsorted : entries.Pairwise fun a b => a.name ≤ b.name)
    (hsorted' : entries'.Pairwise fun a b => a.name ≤ b.name) :
    entries'.map (·.name) = entries.map (·.name) :=
  (h.map _).eq_of_pairwise (fun _ _ _ _ hab hba => String.le_antisymm hab hba)
    (List.pairwise_map.mpr hsorted') (List.pairwise_map.mpr hsorted)

/-- What two orders of the same directories make of the library: nothing can be loaded in either, or
the same entries are loaded, in the order of their names, which is the only one if no two of them
share a name. -/
theorem load_relisted (h : System.Relisted fs fs') (dir : Path) :
    (load fs' dir).2 = (load fs dir).2 ∧
      ((∃ e e', (load fs dir).1 = .error e ∧ (load fs' dir).1 = .error e') ∨
        ∃ entries entries', (load fs dir).1 = .ok entries ∧ (load fs' dir).1 = .ok entries' ∧
          entries'.Perm entries ∧ entries'.map (·.name) = entries.map (·.name) ∧
          ((∀ a ∈ entries, ∀ b ∈ entries, a.name = b.name → a = b) → entries' = entries)) := by
  have hread : readEntry fs' dir = readEntry fs dir := funext (readEntry_relisted h)
  rw [load, load, h.pathExists, hread]
  split
  next hexists =>
    obtain ⟨names, names', hnames, hnames', hperm⟩ | ⟨e, he, he'⟩ := h.list_cases hexists
    · rw [hnames, hnames']
      refine ⟨rfl, ?_⟩
      dsimp only
      obtain ⟨found, found', hfound, hfound', hperm⟩ | ⟨e, e', he, he'⟩ :=
        mapM_perm_cases (readEntry fs dir) hperm.symm
      · rw [hfound, hfound']
        have hentries := mergeSort_byName_perm (hperm.filterMap id)
        have hsorted := pairwise_mergeSort_byName (found.filterMap id)
        have hsorted' := pairwise_mergeSort_byName (found'.filterMap id)
        refine .inr ⟨_, _, rfl, rfl, hentries, map_name_eq_of_perm hentries hsorted hsorted', ?_⟩
        intro hunique
        refine hentries.eq_of_pairwise (fun a b ha hb hab hba => ?_) hsorted' hsorted
        exact hunique a (hentries.mem_iff.mp ha) b hb (String.le_antisymm hab hba)
      · rw [he, he']
        exact .inl ⟨e, e', rfl, rfl⟩
    · rw [he, he']
      exact ⟨rfl, .inl ⟨_, _, rfl, rfl⟩⟩
  next => exact ⟨rfl, .inr ⟨[], [], rfl, rfl, .refl _, rfl, fun _ => rfl⟩⟩

/-- A file system that is one directory of texts. -/
def shelf (texts : List (String × String)) : System where
  root := .dir { mode := 0o755, changed := 0 } (texts.map fun (name, text) =>
    (Path.ofString name, .file { mode := 0o644, changed := 0 } (Bytes.ofString text)))
  cwd := []
  now := 0
  mask := 0o22

theorem relisted_shelf (first second : String × String)
    (h : Path.ofString first.1 ≠ Path.ofString second.1) :
    System.Relisted (shelf [first, second]) (shelf [second, first]) := by
  have hroot : (shelf [first, second]).root.get? [] = some (shelf [first, second]).root := rfl
  refine System.relisted_of_perm hroot ?_ (.swap ..)
  simpa using h

theorem load_relisted_of_distinct :
    System.Relisted (shelf [("b.y", "2"), ("a.x", "1")]) (shelf [("a.x", "1"), ("b.y", "2")]) ∧
      (load (shelf [("a.x", "1"), ("b.y", "2")]) (Path.ofString ".")).1 =
        .ok [⟨"a", "1"⟩, ⟨"b", "2"⟩] := by
  have hrelisted := relisted_shelf ("b.y", "2") ("a.x", "1") (by decide)
  have hload : (load (shelf [("b.y", "2"), ("a.x", "1")]) (Path.ofString ".")).1 =
      .ok [⟨"a", "1"⟩, ⟨"b", "2"⟩] := by
    cbv
  refine ⟨hrelisted, ?_⟩
  obtain ⟨-, ⟨e, _, he, _⟩ | ⟨entries, entries', hentries, hentries', _, _, hunique⟩⟩ :=
    load_relisted hrelisted (Path.ofString ".")
  · cases hload.symm.trans he
  · cases hload.symm.trans hentries
    rw [hentries', hunique (by decide)]

/-- Files that share a name are loaded in the order in which they are listed. -/
theorem not_load_relisted :
    System.Relisted (shelf [("a.y", "2"), ("a.x", "1")]) (shelf [("a.x", "1"), ("a.y", "2")]) ∧
      (load (shelf [("a.y", "2"), ("a.x", "1")]) (Path.ofString ".")).1 =
        .ok [⟨"a", "2"⟩, ⟨"a", "1"⟩] ∧
      (load (shelf [("a.x", "1"), ("a.y", "2")]) (Path.ofString ".")).1 =
        .ok [⟨"a", "1"⟩, ⟨"a", "2"⟩] :=
  ⟨relisted_shelf _ _ (by decide), by cbv, by cbv⟩

end Library

end Scratchpad
