import Mathlib
import Scratchpad.Files.Tree

/-!
# Laws of file trees

A walk passes through directories and is sent on by links; files and the like are of no concern to
it. Taking an entry away, or putting a file in its place, stops all walks through that place and
leaves the rest of the tree passable as it was.
-/

namespace Scratchpad.Files

/-- What a walk meets on its way. -/
inductive Pass
  | dir
  | link (target : Path)
deriving DecidableEq

namespace Node

/-- Files, pipes and devices let nothing pass. -/
def pass? : Node → Option Pass
  | .dir .. => some .dir
  | .link _ target => some (.link target)
  | _ => none

def passAt (root : Node) (p : Place) : Option Pass :=
  (root.get? p).bind pass?

theorem isDir_of_leaf {n : Node} (h : n.pass? = none) : n.isDir = false := by
  cases n with
  | dir t entries => cases h
  | _ => rfl

/-- What is read where nothing passes; a device gives nothing. -/
def contents : Node → Bytes
  | .file _ contents | .pipe _ contents => contents
  | _ => []

theorem passAt_eq_dir_iff {root : Node} {p : Place} :
    root.passAt p = some .dir ↔ ∃ t entries, root.get? p = some (.dir t entries) := by
  unfold passAt
  rcases root.get? p with _ | n
  · simp
  · cases n <;> simp [pass?]

theorem passAt_eq_link_iff {root : Node} {p : Place} {target : Path} :
    root.passAt p = some (.link target) ↔ ∃ t, root.get? p = some (.link t target) := by
  unfold passAt
  rcases root.get? p with _ | n
  · simp
  · cases n <;> simp [pass?]

/-- Below anything but a directory there is nothing. -/
theorem get?_cons_of_not_dir {n : Node} (h : n.isDir = false) (name : Name) (rest : Place) :
    n.get? (name :: rest) = none := by
  cases n with
  | dir t entries => cases h
  | _ => rfl

theorem get?_dir_cons (t : Traits) (entries : List (Name × Node)) (name : Name) (rest : Place) :
    (dir t entries).get? (name :: rest) = (entries.lookup name).bind (·.get? rest) := rfl

theorem get?_append (n : Node) (p q : Place) : n.get? (p ++ q) = (n.get? p).bind (·.get? q) := by
  induction p generalizing n with
  | nil => rfl
  | cons name rest ih =>
    cases n with
    | dir t entries =>
      rw [List.cons_append, get?_dir_cons, get?_dir_cons, Option.bind_assoc]
      exact congrArg _ (funext fun m => ih m)
    | _ => rfl

/-- Whatever stands in the tree stands in a directory. -/
theorem passAt_of_get?_concat {root n : Node} {p : Place} {name : Name}
    (h : root.get? (p ++ [name]) = some n) : root.passAt p = some .dir := by
  rw [get?_append] at h
  obtain ⟨m, hm, hn⟩ := Option.bind_eq_some_iff.mp h
  cases m with
  | dir t entries => exact passAt_eq_dir_iff.mpr ⟨t, entries, hm⟩
  | _ => cases hn

theorem passAt_dropLast {root : Node} {p : Place} (h : root.passAt p = some .dir) :
    root.passAt p.dropLast = some .dir := by
  cases p using List.reverseRecOn with
  | nil => exact h
  | append_singleton p name =>
    obtain ⟨t, entries, hget⟩ := passAt_eq_dir_iff.mp h
    rw [List.dropLast_concat]
    exact passAt_of_get?_concat hget

theorem get?_cons_of_leaf {n : Node} (h : n.pass? = none) (key : Name) (rest : Place) :
    n.get? (key :: rest) = none := by
  cases n with
  | dir t entries => cases h
  | _ => rfl

/-- Where nothing passes, nothing passes further on. -/
theorem passAt_below {root : Node} {p q : Place} (h : root.passAt p = none) (hq : p <+: q) :
    root.passAt q = none := by
  obtain ⟨rest, rfl⟩ := hq
  cases rest with
  | nil => rwa [List.append_nil]
  | cons key rest =>
    rw [passAt, get?_append]
    cases hp : root.get? p with
    | none => rfl
    | some n =>
      have hleaf : n.pass? = none := by rwa [passAt, hp] at h
      rw [Option.bind_some, get?_cons_of_leaf hleaf]
      rfl

/-! ## Changes at one place -/

theorem lookup_map_change (g : Node → Node) (name key : Name) (entries : List (Name × Node)) :
    (entries.map fun e => if e.1 = name then (e.1, g e.2) else e).lookup key =
      if key = name then (entries.lookup key).map g else entries.lookup key := by
  induction entries with
  | nil => simp
  | cons e entries ih =>
    obtain ⟨k, m⟩ := e
    grind

variable (f : Node → Node)

theorem get?_modify_append (root : Node) (p q : Place) :
    (root.modify f p).get? (p ++ q) = (root.get? p).bind fun m => (f m).get? q := by
  induction p generalizing root with
  | nil => cases root <;> rfl
  | cons name rest ih =>
    cases root with
    | dir t entries =>
      rw [modify, List.cons_append, get?_dir_cons, lookup_map_change (modify f · rest), if_pos rfl,
        get?_dir_cons]
      cases entries.lookup name with
      | none => rfl
      | some m => exact ih m
    | _ => rfl

/-- A change at a place does not concern what is neither at that place nor below it. -/
theorem passAt_modify_elsewhere (root : Node) {p q : Place} (h : ¬ p <+: q) :
    (root.modify f p).passAt q = root.passAt q := by
  induction p generalizing root q with
  | nil => exact absurd List.nil_prefix h
  | cons name rest ih =>
    cases root with
    | dir t entries =>
      cases q with
      | nil => rfl
      | cons key q =>
        rw [modify, passAt, get?_dir_cons, lookup_map_change (modify f · rest), passAt,
          get?_dir_cons]
        split
        next hk =>
          subst hk
          rw [List.prefix_cons_inj] at h
          cases entries.lookup key with
          | none => rfl
          | some m => exact ih m h
        next => rfl
    | _ => rfl

variable {root : Node} (now : Int) {dir : Place} {name : Name}

/-! ## Entries taken away and put -/

theorem lookup_filter_ne (name key : Name) (entries : List (Name × Node)) :
    (entries.filter (·.1 ≠ name)).lookup key =
      if key = name then none else entries.lookup key := by
  induction entries with
  | nil => simp
  | cons e entries ih =>
    obtain ⟨k, m⟩ := e
    grind

theorem lookup_put (name key : Name) (node : Node) (entries : List (Name × Node)) :
    (put name node entries).lookup key =
      if key = name then some node else entries.lookup key := by
  induction entries with
  | nil => grind [put]
  | cons e entries ih =>
    obtain ⟨k, m⟩ := e
    grind [put]

theorem concat_prefix_append_iff {rest : Place} :
    dir ++ [name] <+: dir ++ rest ↔ rest.head? = some name := by
  rw [List.prefix_append_right_inj]
  cases rest with
  | nil => simp
  | cons key rest => simp [List.cons_prefix_cons, eq_comm]

/-- A directory is given other entries, so that a name stands for nothing there, or for a leaf. -/
structure Cuts (f : Node → Node) (name : Name) (new : Option Node) : Prop where
  other : ∀ n, n.isDir = false → f n = n
  dir : ∀ t entries, ∃ t' entries', f (.dir t entries) = .dir t' entries' ∧
    ∀ key, entries'.lookup key = if key = name then new else entries.lookup key
  leaf : ∀ m ∈ new, m.pass? = none

theorem Cuts.pass? {new : Option Node} (h : Cuts f name new) (n : Node) (rest : Place) :
    ((f n).get? rest).bind Node.pass? =
      if rest.head? = some name then none else (n.get? rest).bind Node.pass? := by
  cases hn : n.isDir with
  | false =>
    rw [h.other n hn]
    cases rest with
    | nil => rfl
    | cons key rest => simp [get?_cons_of_not_dir hn]
  | true =>
    cases n with
    | dir t entries =>
      obtain ⟨t', entries', hf, hlookup⟩ := h.dir t entries
      rw [hf]
      cases rest with
      | nil => rfl
      | cons key rest =>
        rw [get?_dir_cons, hlookup, get?_dir_cons]
        simp only [List.head?_cons, Option.some.injEq]
        split
        next =>
          cases new with
          | none => rfl
          | some m =>
            have hm : m.pass? = none := h.leaf m rfl
            cases rest with
            | nil => exact hm
            | cons key rest => simp [get?_cons_of_leaf hm]
        next => rfl
    | _ => cases hn

theorem Cuts.passAt {new : Option Node} (h : Cuts f name new) (p : Place) :
    (root.modify f dir).passAt p = if dir ++ [name] <+: p then none else root.passAt p := by
  by_cases hp : dir <+: p
  · obtain ⟨rest, rfl⟩ := hp
    rw [Node.passAt, get?_modify_append, Node.passAt, get?_append]
    simp only [concat_prefix_append_iff]
    cases root.get? dir with
    | none => simp
    | some m => exact h.pass? f m rest
  · have hn : ¬ dir ++ [name] <+: p := fun h => hp ((List.prefix_append dir [name]).trans h)
    rw [if_neg hn]
    exact passAt_modify_elsewhere _ root hp

/-- Where an entry was taken away nothing passes any more. -/
theorem passAt_erase (p : Place) : (root.erase now dir name).passAt p =
    if dir ++ [name] <+: p then none else root.passAt p := by
  refine @Cuts.passAt _ root dir name none ⟨fun n hn => ?_, fun t entries => ?_, nofun⟩ p
  · cases n with
    | dir t entries => cases hn
    | _ => rfl
  · exact ⟨_, _, rfl, fun key => lookup_filter_ne name key entries⟩

/-- Where a leaf was put nothing passes any more. -/
theorem passAt_insert {node : Node} (hleaf : node.pass? = none) (p : Place) :
    (root.insert now dir name node).passAt p =
      if dir ++ [name] <+: p then none else root.passAt p := by
  refine @Cuts.passAt _ root dir name (some node) ⟨fun n hn => ?_, fun t entries => ?_, ?_⟩ p
  · cases n with
    | dir t entries => cases hn
    | _ => rfl
  · exact ⟨_, _, rfl, fun key => lookup_put name key node entries⟩
  · rintro m ⟨⟩
    exact hleaf

theorem get?_insert (h : root.passAt dir = some .dir) (node : Node) :
    (root.insert now dir name node).get? (dir ++ [name]) = some node := by
  obtain ⟨t, entries, hdir⟩ := passAt_eq_dir_iff.mp h
  rw [insert, get?_modify_append, hdir, Option.bind_some, get?_dir_cons, lookup_put, if_pos rfl]
  rfl

theorem get?_erase : (root.erase now dir name).get? (dir ++ [name]) = none := by
  rw [erase, get?_modify_append]
  cases root.get? dir with
  | none => rfl
  | some m =>
    cases m with
    | dir t entries =>
      rw [Option.bind_some, get?_dir_cons, lookup_filter_ne, if_pos rfl]
      rfl
    | _ => rfl

/-! ## Files changed in their places -/

theorem renew_of_not_dir (k : Nat) (node : Node) {n : Node} (h : n.isDir = false) :
    renew k node n = if n.traits.number = some k then node else n := by
  cases n with
  | dir t entries => cases h
  | _ => rfl

theorem pass?_of_renew {k : Nat} {node n : Node} (hleaf : node.pass? = none) {x : Pass}
    (h : (renew k node n).pass? = some x) : n.pass? = some x := by
  cases hn : n.isDir with
  | true =>
    cases n with
    | dir t entries => exact h
    | _ => cases hn
  | false =>
    rw [renew_of_not_dir k node hn] at h
    split at h
    · rw [hleaf] at h
      cases h
    · exact h

theorem lookup_renewAll (k : Nat) (node : Node) (key : Name) (entries : List (Name × Node)) :
    (renewAll k node entries).lookup key = (entries.lookup key).map (renew k node) := by
  induction entries with
  | nil => rfl
  | cons e entries ih =>
    obtain ⟨name, m⟩ := e
    rw [renewAll]
    grind

theorem get?_renew (k : Nat) {node : Node} (hleaf : node.pass? = none) (root : Node) (p : Place) :
    (renew k node root).get? p = (root.get? p).map (renew k node) := by
  induction p generalizing root with
  | nil => rfl
  | cons key rest ih =>
    cases hroot : root.isDir with
    | false =>
      rw [renew_of_not_dir k node hroot, get?_cons_of_not_dir hroot]
      split
      · exact get?_cons_of_leaf hleaf key rest
      · exact get?_cons_of_not_dir hroot key rest
    | true =>
      cases root with
      | dir t entries =>
        rw [renew, get?_dir_cons, lookup_renewAll, get?_dir_cons]
        cases entries.lookup key with
        | none => rfl
        | some m => exact ih m
      | _ => cases hroot

theorem isDir_of_renew {k : Nat} {node n : Node} (hleaf : node.pass? = none)
    (h : n.isDir = false) : (renew k node n).isDir = false := by
  rw [renew_of_not_dir k node h]
  split
  · exact isDir_of_leaf hleaf
  · exact h

theorem mem_numbersIn {k : Nat} {entries : List (Name × Node)} {key : Name} {n : Node}
    (hkey : entries.lookup key = some n) (hk : k ∈ n.numbers) : k ∈ numbersIn entries := by
  induction entries with
  | nil => cases hkey
  | cons e entries ih =>
    obtain ⟨name, m⟩ := e
    rw [numbersIn, List.mem_append]
    rw [List.lookup_cons] at hkey
    split at hkey
    next =>
      cases hkey
      exact .inl hk
    next => exact .inr (ih hkey)

/-- The number of a file that stands in a tree is a number of the tree. -/
theorem mem_numbers {k : Nat} {root n : Node} {p : Place} (hget : root.get? p = some n)
    (hfile : n.isDir = false) (hk : n.traits.number = some k) : k ∈ root.numbers := by
  induction p generalizing root with
  | nil =>
    obtain rfl : root = n := Option.some.inj hget
    cases root with
    | dir t entries => cases hfile
    | _ => simpa [numbers] using hk
  | cons key rest ih =>
    cases root with
    | dir t entries =>
      rw [get?_dir_cons] at hget
      obtain ⟨m, hm, hget⟩ := Option.bind_eq_some_iff.mp hget
      exact mem_numbersIn hm (ih hget)
    | _ => cases hget

/-- A leaf that takes the place of a node makes nothing passable. -/
theorem passAt_of_modify {node : Node} (hleaf : node.pass? = none) {p q : Place} {x : Pass}
    (h : (root.modify (fun _ => node) p).passAt q = some x) : root.passAt q = some x := by
  by_cases hq : p <+: q
  · obtain ⟨rest, rfl⟩ := hq
    rw [passAt, get?_modify_append] at h
    obtain ⟨n, hn, hx⟩ := Option.bind_eq_some_iff.mp h
    obtain ⟨m, _, hm⟩ := Option.bind_eq_some_iff.mp hn
    cases rest with
    | nil =>
      cases hm
      rw [hleaf] at hx
      cases hx
    | cons key rest =>
      rw [get?_cons_of_leaf hleaf] at hm
      cases hm
  · rwa [passAt_modify_elsewhere _ root hq] at h

end Node

end Scratchpad.Files
