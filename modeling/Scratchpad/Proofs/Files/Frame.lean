import Scratchpad.Proofs.Files.Moves

/-!
# What stays in a tree

What stands at a place is bare when it is seen by itself: of a directory it is left out what the
directory holds and when that was changed. A change of one entry leaves everything bare as it was at
all other places. Whatever a walk finds in a tree it finds in every tree where the same stands.
-/

namespace Scratchpad.Files

namespace Node

def bare : Node → Node
  | .dir t _ => .dir { t with changed := 0 } []
  | n => n

def bareAt (root : Node) (p : Place) : Option Node :=
  (root.get? p).map bare

@[simp] theorem pass?_bare (n : Node) : n.bare.pass? = n.pass? := by
  cases n <;> rfl

@[simp] theorem isDir_bare (n : Node) : n.bare.isDir = n.isDir := by
  cases n <;> rfl

theorem bare_of_not_dir {n : Node} (h : n.isDir = false) : n.bare = n := by
  cases n with
  | dir t entries => cases h
  | _ => rfl

theorem eq_of_bare {n n' : Node} (h : n'.bare = n.bare) (hn : n.isDir = false) : n' = n := by
  have hn' : n'.isDir = false := by rw [← isDir_bare, h, isDir_bare, hn]
  rwa [bare_of_not_dir hn, bare_of_not_dir hn'] at h

variable {root root' : Node} {p q : Place} {n : Node}

theorem bareAt_of_get? (h : root.get? p = some n) : root.bareAt p = some n.bare := by
  rw [bareAt, h, Option.map_some]

theorem passAt_eq_bareAt : root.passAt p = (root.bareAt p).bind pass? := by
  rw [passAt, bareAt]
  cases root.get? p with
  | none => rfl
  | some n => exact (pass?_bare n).symm

theorem passAt_congr (h : root'.bareAt p = root.bareAt p) : root'.passAt p = root.passAt p := by
  rw [passAt_eq_bareAt, passAt_eq_bareAt, h]

theorem bareAt_eq_none_iff : root.bareAt p = none ↔ root.get? p = none := by
  rw [bareAt, Option.map_eq_none_iff]

theorem exists_of_bareAt_eq {n : Node} (h : root'.bareAt p = root.bareAt p)
    (hget : root.get? p = some n) : ∃ n', root'.get? p = some n' ∧ n'.bare = n.bare := by
  rw [bareAt_of_get? hget, bareAt, Option.map_eq_some_iff] at h
  exact h

/-- Whatever stands in one tree stands in the other. -/
def Kept (root root' : Node) : Prop :=
  ∀ p n, root.bareAt p = some n → root'.bareAt p = some n

theorem Kept.exists (h : Kept root root') (hget : root.get? p = some n) :
    ∃ n', root'.get? p = some n' ∧ n'.bare = n.bare :=
  Option.map_eq_some_iff.mp (h p n.bare (bareAt_of_get? hget))

theorem Kept.passAt (h : Kept root root') {x : Pass} (hx : root.passAt p = some x) :
    root'.passAt p = some x := by
  rw [passAt_eq_bareAt] at hx ⊢
  obtain ⟨n, hn, hx⟩ := Option.bind_eq_some_iff.mp hx
  rw [h p n hn, Option.bind_some, hx]

theorem Kept.trans {root'' : Node} (h : Kept root root') (h' : Kept root' root'') :
    Kept root root'' :=
  fun p n hn => h' p n (h p n hn)

/-! ## Below a place -/

/-- There is nothing below a place. -/
def Bottom (root : Node) (p : Place) : Prop :=
  ∀ key rest, root.get? (p ++ key :: rest) = none

theorem bottom_of_passAt (h : root.passAt p ≠ some .dir) : Bottom root p := by
  intro key rest
  rw [get?_append]
  cases hp : root.get? p with
  | none => rfl
  | some n =>
    cases n with
    | dir t entries => exact absurd (passAt_eq_dir_iff.mpr ⟨t, entries, hp⟩) h
    | _ => rfl

theorem bottom_of_empty {t : Traits} (h : root.get? p = some (.dir t [])) : Bottom root p := by
  intro key rest
  rw [get?_append, h]
  rfl

theorem bareAt_of_bottom (h : Bottom root p) (h' : Bottom root' p)
    (hq : p <+: q) (hne : q ≠ p) : root'.bareAt q = root.bareAt q := by
  obtain ⟨rest, rfl⟩ := hq
  cases rest with
  | nil => exact absurd (List.append_nil p) hne
  | cons key rest => rw [bareAt, bareAt, h key rest, h' key rest]

/-! ## Changes at one place -/

variable (f : Node → Node)

theorem bareAt_modify_elsewhere (root : Node) (h : ¬ p <+: q) :
    (root.modify f p).bareAt q = root.bareAt q := by
  induction p generalizing root q with
  | nil => exact absurd List.nil_prefix h
  | cons name rest ih =>
    cases root with
    | dir t entries =>
      cases q with
      | nil => rfl
      | cons key q =>
        rw [modify, bareAt, get?_dir_cons, lookup_map_change (modify f · rest), bareAt,
          get?_dir_cons]
        split
        next hk =>
          subst hk
          rw [List.prefix_cons_inj] at h
          cases entries.lookup key with
          | none => rfl
          | some m => exact ih m h
        next => rfl
    | _ => rfl

variable {dir : Place} {name : Name} (now : Int)

/-- A directory is given other entries, all of which stay but the one of a name. -/
structure Alters (f : Node → Node) (name : Name) : Prop where
  other : ∀ n, n.isDir = false → f n = n
  dir : ∀ t entries, ∃ now entries', f (.dir t entries) = .dir { t with changed := now } entries' ∧
    ∀ key, key ≠ name → entries'.lookup key = entries.lookup key

theorem Alters.bareAt (h : Alters f name) (hq : ¬ dir ++ [name] <+: q) :
    (root.modify f dir).bareAt q = root.bareAt q := by
  by_cases hp : dir <+: q
  · obtain ⟨rest, rfl⟩ := hp
    rw [concat_prefix_append_iff] at hq
    rw [Node.bareAt, get?_modify_append, Node.bareAt, get?_append]
    cases root.get? dir with
    | none => rfl
    | some m =>
      rw [Option.bind_some, Option.bind_some]
      cases hm : m.isDir with
      | false => rw [h.other m hm]
      | true =>
        cases m with
        | dir t entries =>
          obtain ⟨_, entries', hf, hlookup⟩ := h.dir t entries
          rw [hf]
          cases rest with
          | nil => rfl
          | cons key rest =>
            have hkey : key ≠ name := fun hkey => hq (congrArg some hkey)
            rw [get?_dir_cons, get?_dir_cons, hlookup key hkey]
        | _ => cases hm
  · exact bareAt_modify_elsewhere f root hp

theorem bareAt_insert {node : Node} (hq : ¬ dir ++ [name] <+: q) :
    (root.insert now dir name node).bareAt q = root.bareAt q := by
  refine Alters.bareAt _ ⟨fun n hn => ?_, fun t entries => ?_⟩ hq
  · cases n with
    | dir t entries => cases hn
    | _ => rfl
  · exact ⟨_, _, rfl, fun key hkey => by rw [lookup_put, if_neg hkey]⟩

theorem bareAt_erase (hq : ¬ dir ++ [name] <+: q) :
    (root.erase now dir name).bareAt q = root.bareAt q := by
  refine Alters.bareAt _ ⟨fun n hn => ?_, fun t entries => ?_⟩ hq
  · cases n with
    | dir t entries => cases hn
    | _ => rfl
  · exact ⟨_, _, rfl, fun key hkey => by rw [lookup_filter_ne, if_neg hkey]⟩

/-- An entry with nothing below it was put where nothing was below. -/
theorem bareAt_insert_ne {node : Node} (hdir : root.passAt dir = some .dir)
    (hbottom : Bottom root (dir ++ [name])) (hnode : Bottom node []) (hq : q ≠ dir ++ [name]) :
    (root.insert now dir name node).bareAt q = root.bareAt q := by
  by_cases hp : dir ++ [name] <+: q
  · refine bareAt_of_bottom hbottom (fun key rest => ?_) hp hq
    rw [get?_append, get?_insert now hdir]
    exact hnode key rest
  · exact bareAt_insert now hp

theorem bareAt_erase_ne (hbottom : Bottom root (dir ++ [name])) (hq : q ≠ dir ++ [name]) :
    (root.erase now dir name).bareAt q = root.bareAt q := by
  by_cases hp : dir ++ [name] <+: q
  · refine bareAt_of_bottom hbottom (fun key rest => ?_) hp hq
    rw [get?_append, get?_erase]
    rfl
  · exact bareAt_erase now hp

theorem bareAt_replace_ne {before after : Node} (hget : root.get? p = some before)
    (hbefore : before.pass? = none) (hafter : after.pass? = none) (hq : q ≠ p) :
    (root.modify (fun _ => after) p).bareAt q = root.bareAt q := by
  by_cases hp : p <+: q
  · have hpass : root.passAt p = none := by rw [passAt, hget, Option.bind_some, hbefore]
    refine bareAt_of_bottom (bottom_of_passAt (by simp [hpass])) (fun key rest => ?_) hp hq
    rw [get?_modify_append, hget, Option.bind_some]
    exact get?_cons_of_leaf hafter key rest
  · exact bareAt_modify_elsewhere _ root hp

end Node

/-! ## Walks -/

namespace System
variable {root root' : Node} {follow making : Bool}

/-- What a walk finds stands where it is found. -/
theorem get?_of_walk {links : Nat} {here p : Place} {parts : List Name} {n : Node}
    (h : walk root follow making links here parts = .ok (.found p n)) : root.get? p = some n := by
  match parts with
  | [] =>
    rw [walk] at h
    split at h
    next hget =>
      cases h
      exact hget
    next => cases h
  | part :: rest =>
    have hdir : root.passAt here = some .dir := isDir_of_walk h
    obtain hskip | rfl | hlen | he := isEntry_cases part
    · exact get?_of_walk (walk_skip hdir hskip ▸ h)
    · exact get?_of_walk (walk_up hdir ▸ h)
    · rw [walk_long hdir hlen] at h
      cases h
    · rw [walk_entry hdir he] at h
      cases hget : root.get? (here ++ [part]) with
      | none =>
        rw [hget] at h
        cases rest <;> simp at h
      | some m =>
        rw [hget] at h
        cases m with
        | link t target =>
          dsimp only at h
          split at h
          next =>
            cases h
            exact hget
          next =>
            cases links with
            | zero => cases h
            | succ links => exact get?_of_walk h
        | _ => exact get?_of_walk h
termination_by (links, parts.length)

/-- What is found in a tree is found where all of that tree stands. -/
theorem walk_of_kept (hkept : Node.Kept root root') {links : Nat} {here p : Place}
    {parts : List Name} {n : Node}
    (h : walk root follow making links here parts = .ok (.found p n)) :
    ∃ n', walk root' follow making links here parts = .ok (.found p n') ∧ n'.bare = n.bare := by
  match parts with
  | [] =>
    rw [walk] at h
    split at h
    next m hget =>
      cases h
      obtain ⟨n', hget', hbare⟩ := hkept.exists hget
      exact ⟨n', by rw [walk, hget'], hbare⟩
    next => cases h
  | part :: rest =>
    have hdir : root.passAt here = some .dir := isDir_of_walk h
    have hdir' : root'.passAt here = some .dir := hkept.passAt hdir
    obtain hskip | rfl | hlen | he := isEntry_cases part
    · rw [walk_skip hdir' hskip]
      exact walk_of_kept hkept (walk_skip hdir hskip ▸ h)
    · rw [walk_up hdir']
      exact walk_of_kept hkept (walk_up hdir ▸ h)
    · rw [walk_long hdir hlen] at h
      cases h
    · rw [walk_entry hdir he] at h
      rw [walk_entry hdir' he]
      cases hget : root.get? (here ++ [part]) with
      | none =>
        rw [hget] at h
        cases rest <;> simp at h
      | some m =>
        rw [hget] at h
        obtain ⟨m', hget', hbare⟩ := hkept.exists hget
        rw [hget']
        cases m with
        | link t target =>
          obtain rfl : m' = .link t target := Node.eq_of_bare hbare rfl
          dsimp only at h ⊢
          split at h
          next hstop =>
            cases h
            exact ⟨_, if_pos hstop, rfl⟩
          next hgo =>
            rw [if_neg hgo]
            cases links with
            | zero => cases h
            | succ links => exact walk_of_kept hkept h
        | dir t entries =>
          cases m' with
          | dir t' entries' => exact walk_of_kept hkept h
          | _ => cases hbare
        | file t contents =>
          obtain rfl : m' = .file t contents := Node.eq_of_bare hbare rfl
          exact walk_of_kept hkept h
        | pipe t contents =>
          obtain rfl : m' = .pipe t contents := Node.eq_of_bare hbare rfl
          exact walk_of_kept hkept h
        | device t =>
          obtain rfl : m' = .device t := Node.eq_of_bare hbare rfl
          exact walk_of_kept hkept h
termination_by (links, parts.length)

variable {fs fs' : System} {p : Path} {place : Place} {n : Node}

theorem get?_of_resolve (h : fs.resolve follow p = .ok (.found place n)) :
    fs.root.get? place = some n := by
  simp only [resolve, locate] at h
  repeat' split at h
  all_goals first | cases h | exact get?_of_walk h

theorem resolve_of_kept (hcwd : fs'.cwd = fs.cwd) (hkept : Node.Kept fs.root fs'.root)
    (h : fs.resolve follow p = .ok (.found place n)) :
    ∃ n', fs'.resolve follow p = .ok (.found place n') ∧ n'.bare = n.bare := by
  have hstart : fs'.startOf p = fs.startOf p := by rw [startOf, startOf, hcwd]
  simp only [resolve, locate] at h ⊢
  rw [hstart]
  repeat' split at h
  all_goals first
    | cases h
    | (simp only [*, if_false, Bool.false_eq_true]; exact walk_of_kept hkept h)

/-! ## Changes of file systems -/

variable {fs'' : System} {places places' : List Place} {dir : Place} {name : Name} {node : Node}

/-- Two file systems are alike but in some places. -/
structure AlikeBut (places : List Place) (fs fs' : System) : Prop where
  cwd : fs'.cwd = fs.cwd
  bareAt : ∀ q, q ∉ places → fs'.root.bareAt q = fs.root.bareAt q

namespace AlikeBut

theorem refl (places : List Place) (fs : System) : AlikeBut places fs fs :=
  ⟨rfl, fun _ _ => rfl⟩

theorem trans (h : AlikeBut places fs fs') (h' : AlikeBut places' fs' fs'') :
    AlikeBut (places ++ places') fs fs'' where
  cwd := h'.cwd.trans h.cwd
  bareAt q hq := by
    rw [List.mem_append, not_or] at hq
    exact (h'.bareAt q hq.2).trans (h.bareAt q hq.1)

theorem passAt (h : AlikeBut places fs fs') {q : Place} (hq : q ∉ places) :
    fs'.root.passAt q = fs.root.passAt q :=
  Node.passAt_congr (h.bareAt q hq)

/-- What can be passed stays passable if nothing passes in the other places. -/
theorem within (h : AlikeBut places fs fs') (hplaces : ∀ q ∈ places, fs.root.passAt q = none) :
    Within fs fs' where
  cwd := h.cwd.symm
  passAt q x hx := by
    rw [h.passAt fun hq => ?_, hx]
    rw [hplaces q hq] at hx
    cases hx

end AlikeBut

theorem alike_of_erase (hpass : fs.root.passAt (dir ++ [name]) ≠ some .dir) :
    AlikeBut [dir ++ [name]] fs (fs.erase (dir ++ [name])) where
  cwd := rfl
  bareAt q hq := by
    simp only [erase, List.dropLast_concat, List.getLast?_concat, Option.getD_some]
    exact Node.bareAt_erase_ne fs.now (Node.bottom_of_passAt hpass) (by simpa using hq)

theorem alike_of_insert (hdir : fs.root.passAt dir = some .dir)
    (hthere : fs.root.passAt (dir ++ [name]) ≠ some .dir) (hnode : Node.Bottom node []) :
    AlikeBut [dir ++ [name]] fs (fs.insert dir name node) where
  cwd := rfl
  bareAt q hq :=
    Node.bareAt_insert_ne fs.now hdir (Node.bottom_of_passAt hthere) hnode (by simpa using hq)

end System

end Scratchpad.Files
