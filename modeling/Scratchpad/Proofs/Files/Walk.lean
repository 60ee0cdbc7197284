import Scratchpad.Files.System
import Scratchpad.Proofs.Files.Tree

/-!
# Walks

All parts of a path but the last lead to a directory, and the last one is looked up there. Which
directory it is depends only on what can be passed on the way: a walk that succeeds in a tree leads
to the same directory in any other tree where the same can be passed.
-/

namespace Scratchpad.Files

/-- A part of a path that names an entry. -/
structure IsEntry (name : Name) : Prop where
  ne_nil : name ≠ []
  ne_dot : name ≠ [Path.dot]
  ne_dots : name ≠ [Path.dot, Path.dot]
  length_le : name.length ≤ System.nameLimit

/-- Where the parts of a target go on from: the root, or the directory of the link. -/
def Path.baseOf (target : Path) (here : Place) : Place :=
  if isAbsolute target then [] else here

/-- Some parts lead from a place to a directory, on a way with no more than so many links. -/
inductive Leads (root : Node) : Nat → Place → List Name → Place → Prop
  | stay {links : Nat} {here : Place} : root.passAt here = some .dir → Leads root links here [] here
  | skip {links : Nat} {here d : Place} {part : Name} {rest : List Name} :
    root.passAt here = some .dir → part = [] ∨ part = [Path.dot] → Leads root links here rest d →
      Leads root links here (part :: rest) d
  | up {links : Nat} {here d : Place} {rest : List Name} :
    root.passAt here = some .dir → Leads root links here.dropLast rest d →
      Leads root links here ([Path.dot, Path.dot] :: rest) d
  | down {links : Nat} {here d : Place} {part : Name} {rest : List Name} :
    root.passAt here = some .dir → IsEntry part → root.passAt (here ++ [part]) = some .dir →
      Leads root links (here ++ [part]) rest d → Leads root links here (part :: rest) d
  | link {links : Nat} {here d : Place} {part : Name} {rest : List Name} {target : Path} :
    root.passAt here = some .dir → IsEntry part →
      root.passAt (here ++ [part]) = some (.link target) →
      Leads root links (target.baseOf here) ((Path.segments target).filter (· ≠ []) ++ rest) d →
      Leads root (links + 1) here (part :: rest) d

/-- What is found under a name in a directory. -/
def Node.lookupAt (root : Node) (dir : Place) (name : Name) : Target :=
  match root.get? (dir ++ [name]) with
  | some node => .found (dir ++ [name]) node
  | none => .absent dir name

theorem Node.lookupAt_eq_found_iff {root node : Node} {dir place : Place} {name : Name} :
    root.lookupAt dir name = .found place node ↔
      place = dir ++ [name] ∧ root.get? (dir ++ [name]) = some node := by
  unfold lookupAt
  cases root.get? (dir ++ [name]) <;> simp [eq_comm]

theorem Node.eq_of_lookupAt_eq_absent {root : Node} {dir d : Place} {name n : Name}
    (h : root.lookupAt dir name = .absent d n) : d = dir ∧ n = name := by
  unfold lookupAt at h
  split at h
  next => cases h
  next =>
    cases h
    exact ⟨rfl, rfl⟩

theorem Node.place_eq_of_lookupAt {root : Node} {dir dir' : Place} {name name' : Name}
    (h : root.lookupAt dir name = root.lookupAt dir' name') : dir ++ [name] = dir' ++ [name'] := by
  unfold lookupAt at h
  split at h <;> split at h <;> simp_all

namespace Leads
variable {root root' : Node} {links links' : Nat} {here d d' : Place} {parts parts' : List Name}

/-- The way is the same where no less can be passed. -/
theorem mono (h : Leads root links here parts d)
    (hle : ∀ p x, root.passAt p = some x → root'.passAt p = some x) :
    Leads root' links here parts d := by
  induction h with
  | stay hdir => exact .stay (hle _ _ hdir)
  | skip hdir hpart _ ih => exact .skip (hle _ _ hdir) hpart ih
  | up hdir _ ih => exact .up (hle _ _ hdir) ih
  | down hdir hpart hsub _ ih => exact .down (hle _ _ hdir) hpart (hle _ _ hsub) ih
  | link hdir hpart hsub _ ih => exact .link (hle _ _ hdir) hpart (hle _ _ hsub) ih

theorem isDir_start (h : Leads root links here parts d) : root.passAt here = some .dir := by
  cases h <;> assumption

theorem isDir_end (h : Leads root links here parts d) : root.passAt d = some .dir := by
  induction h <;> assumption

/-- The way is the same where all can be passed that can be passed in each of two trees. -/
theorem inter {root'' : Node} (h : Leads root links here parts d)
    (h' : Leads root' links here parts d')
    (hle : ∀ p x, root.passAt p = some x → root'.passAt p = some x → root''.passAt p = some x)
    (hagree : ∀ p x x', root.passAt p = some x → root'.passAt p = some x' → x = x') :
    Leads root'' links here parts d := by
  induction h generalizing d' with
  | stay hdir => exact .stay (hle _ _ hdir h'.isDir_start)
  | skip hdir hpart _ ih =>
    have hdir' := hle _ _ hdir h'.isDir_start
    cases h' with
    | skip _ _ hrest => exact .skip hdir' hpart (ih hrest)
    | up _ hrest => simp at hpart
    | down _ he _ _ => exact absurd hpart (by simp [he.ne_nil, he.ne_dot])
    | link _ he _ _ => exact absurd hpart (by simp [he.ne_nil, he.ne_dot])
  | up hdir _ ih =>
    have hdir' := hle _ _ hdir h'.isDir_start
    cases h' with
    | skip _ hpart _ => simp at hpart
    | up _ hrest => exact .up hdir' (ih hrest)
    | down _ he _ _ => exact absurd rfl he.ne_dots
    | link _ he _ _ => exact absurd rfl he.ne_dots
  | down hdir he hsub _ ih =>
    have hdir' := hle _ _ hdir h'.isDir_start
    cases h' with
    | skip _ hpart _ => exact absurd hpart (by simp [he.ne_nil, he.ne_dot])
    | up _ _ => exact absurd rfl he.ne_dots
    | down _ _ hsub' hrest => exact .down hdir' he (hle _ _ hsub hsub') (ih hrest)
    | link _ _ hsub' _ => cases hagree _ _ _ hsub hsub'
  | link hdir he hsub _ ih =>
    have hdir' := hle _ _ hdir h'.isDir_start
    cases h' with
    | skip _ hpart _ => exact absurd hpart (by simp [he.ne_nil, he.ne_dot])
    | up _ _ => exact absurd rfl he.ne_dots
    | down _ _ hsub' _ => cases hagree _ _ _ hsub hsub'
    | link _ _ hsub' hrest =>
      cases hagree _ _ _ hsub hsub'
      exact .link hdir' he (hle _ _ hsub hsub') (ih hrest)

/-! ## Ways in a row -/

theorem more (h : Leads root links here parts d) : Leads root (links + 1) here parts d := by
  induction h with
  | stay hdir => exact .stay hdir
  | skip hdir hpart _ ih => exact .skip hdir hpart ih
  | up hdir _ ih => exact .up hdir ih
  | down hdir he hsub _ ih => exact .down hdir he hsub ih
  | link hdir he hsub _ ih => exact .link hdir he hsub ih

theorem mono_links (h : Leads root links here parts d) (k : Nat) :
    Leads root (k + links) here parts d := by
  induction k with
  | zero => rwa [Nat.zero_add]
  | succ k ih =>
    rw [Nat.succ_add]
    exact ih.more

theorem append (h : Leads root links here parts d) (h' : Leads root links' d parts' d') :
    Leads root (links + links') here (parts ++ parts') d' := by
  induction h with
  | stay => exact h'.mono_links _
  | skip hdir hpart _ ih => exact .skip hdir hpart (ih h')
  | up hdir _ ih => exact .up hdir (ih h')
  | down hdir he hsub _ ih => exact .down hdir he hsub (ih h')
  | @link links here d part rest target hdir he hsub _ ih =>
    have hrest := ih h'
    rw [List.append_assoc] at hrest
    rw [Nat.add_right_comm]
    exact .link hdir he hsub hrest

theorem split (h : Leads root links here (parts ++ parts') d) :
    ∃ mid, Leads root links here parts mid := by
  generalize heq : parts ++ parts' = all at h
  induction h generalizing parts with
  | @stay links here hdir =>
    obtain ⟨rfl, -⟩ := List.append_eq_nil_iff.mp heq
    exact ⟨here, .stay hdir⟩
  | @skip links here d part rest hdir hpart _ ih =>
    cases parts with
    | nil => exact ⟨here, .stay hdir⟩
    | cons part' parts =>
      obtain ⟨rfl, rfl⟩ := List.cons.inj heq
      obtain ⟨mid, hmid⟩ := ih rfl
      exact ⟨mid, .skip hdir hpart hmid⟩
  | @up links here d rest hdir _ ih =>
    cases parts with
    | nil => exact ⟨here, .stay hdir⟩
    | cons part' parts =>
      obtain ⟨rfl, rfl⟩ := List.cons.inj heq
      obtain ⟨mid, hmid⟩ := ih rfl
      exact ⟨mid, .up hdir hmid⟩
  | @down links here d part rest hdir he hsub _ ih =>
    cases parts with
    | nil => exact ⟨here, .stay hdir⟩
    | cons part' parts =>
      obtain ⟨rfl, rfl⟩ := List.cons.inj heq
      obtain ⟨mid, hmid⟩ := ih rfl
      exact ⟨mid, .down hdir he hsub hmid⟩
  | @link links here d part rest target hdir he hsub _ ih =>
    cases parts with
    | nil => exact ⟨here, .stay hdir⟩
    | cons part' parts =>
      obtain ⟨rfl, rfl⟩ := List.cons.inj heq
      obtain ⟨mid, hmid⟩ := ih (List.append_assoc _ _ _)
      exact ⟨mid, .link hdir he hsub hmid⟩

/-- A way that is not the same once a link is gone leads through that link, which leads to a
directory. -/
theorem through (h : Leads root links here parts d) {dir : Place} {name : Name} {target : Path}
    (hlink : root.passAt (dir ++ [name]) = some (.link target))
    (hkept : ∀ q x, q ≠ dir ++ [name] → root.passAt q = some x → root'.passAt q = some x) :
    Leads root' links here parts d ∨ ∃ links' d', Leads root links' (target.baseOf dir)
      ((Path.segments target).filter (· ≠ [])) d' := by
  have hne {q : Place} (hdir : root.passAt q = some .dir) : q ≠ dir ++ [name] := by
    rintro rfl
    cases hlink.symm.trans hdir
  induction h with
  | stay hdir => exact .inl (.stay (hkept _ _ (hne hdir) hdir))
  | skip hdir hpart _ ih => exact ih.imp_left (.skip (hkept _ _ (hne hdir) hdir) hpart)
  | up hdir _ ih => exact ih.imp_left (.up (hkept _ _ (hne hdir) hdir))
  | down hdir he hsub _ ih =>
    exact ih.imp_left (.down (hkept _ _ (hne hdir) hdir) he (hkept _ _ (hne hsub) hsub))
  | @link links here d part rest onward hdir he hsub hrest ih =>
    by_cases hplace : here ++ [part] = dir ++ [name]
    · obtain ⟨rfl, rfl⟩ := List.append_singleton_inj.mp hplace
      obtain rfl : onward = target := by
        cases hsub.symm.trans hlink
        rfl
      obtain ⟨mid, hmid⟩ := hrest.split
      exact .inr ⟨_, mid, hmid⟩
    · exact ih.imp_left (.link (hkept _ _ (hne hdir) hdir) he (hkept _ _ hplace hsub))

end Leads

namespace System
open Files.Path (dot)
variable {root : Node} {follow making : Bool} {links : Nat} {here dir : Place} {part name : Name}
  {rest init : List Name}

theorem ok_of_bind {α β : Type} {x : Except Error α} {f : α → Except Error β} {b : β}
    (h : x >>= f = .ok b) : ∃ a, x = .ok a ∧ f a = .ok b := by
  cases x with
  | error e => cases h
  | ok a => exact ⟨a, rfl, h⟩

/-! ## Steps of a walk -/

theorem get?_concat {t : Traits} {entries : List (Name × Node)}
    (h : root.get? here = some (.dir t entries)) (part : Name) :
    root.get? (here ++ [part]) = entries.lookup part := by
  rw [Node.get?_append, h, Option.bind_some, Node.get?_dir_cons]
  cases entries.lookup part <;> rfl

theorem isDir_of_walk {target : Target}
    (h : walk root follow making links here (part :: rest) = .ok target) :
    root.passAt here = some .dir := by
  cases hget : root.get? here with
  | none => simp [walk, hget] at h
  | some node =>
    cases node with
    | dir t entries => exact Node.passAt_eq_dir_iff.mpr ⟨t, entries, hget⟩
    | _ => simp [walk, hget] at h

theorem walk_skip (hdir : root.passAt here = some .dir) (hpart : part = [] ∨ part = [dot]) :
    walk root follow making links here (part :: rest) =
      walk root follow making links here rest := by
  obtain ⟨t, entries, hget⟩ := Node.passAt_eq_dir_iff.mp hdir
  rw [walk, hget]
  exact if_pos (by simpa using hpart)

theorem walk_up (hdir : root.passAt here = some .dir) :
    walk root follow making links here ([dot, dot] :: rest) =
      walk root follow making links here.dropLast rest := by
  obtain ⟨t, entries, hget⟩ := Node.passAt_eq_dir_iff.mp hdir
  rw [walk, hget]
  rfl

theorem walk_long (hdir : root.passAt here = some .dir) (hlen : nameLimit < part.length) :
    walk root follow making links here (part :: rest) = .error .nameTooLong := by
  obtain ⟨t, entries, hget⟩ := Node.passAt_eq_dir_iff.mp hdir
  have hne : part ≠ [] ∧ part ≠ [dot] ∧ part ≠ [dot, dot] := by
    refine ⟨?_, ?_, ?_⟩ <;> rintro rfl <;> simp [nameLimit] at hlen
  simp [walk, hget, hne, hlen]

theorem walk_entry (hdir : root.passAt here = some .dir) (he : IsEntry part) :
    walk root follow making links here (part :: rest) =
      match root.get? (here ++ [part]) with
      | none =>
        if rest.isEmpty then .ok (.absent here part)
        else .error (if making && rest = [[]] then .isDirectory else .noEntry)
      | some (.link traits target) =>
        if rest.isEmpty && !follow then .ok (.found (here ++ [part]) (.link traits target))
        else
          match links with
          | 0 => .error .linkLoop
          | links + 1 =>
            walk root follow making links (target.baseOf here)
              ((if rest.isEmpty then Path.segments target
                else (Path.segments target).filter (· ≠ [])) ++ rest)
      | some _ => walk root follow making links (here ++ [part]) rest := by
  obtain ⟨t, entries, hget⟩ := Node.passAt_eq_dir_iff.mp hdir
  rw [walk, hget, get?_concat hget]
  dsimp only
  rw [if_neg (by simp [he.ne_nil, he.ne_dot]), if_neg he.ne_dots,
    if_neg (Nat.not_lt.mpr he.length_le)]
  rfl

/-- A walk whose last part names an entry that is no link to follow. -/
theorem walk_of_leads (h : Leads root links here init dir) (he : IsEntry name)
    (hlink : follow = true → ∀ target, root.passAt (dir ++ [name]) ≠ some (.link target)) :
    walk root follow making links here (init ++ [name]) = .ok (root.lookupAt dir name) := by
  induction h with
  | @stay links here hdir =>
    rw [List.nil_append, walk_entry hdir he, Node.lookupAt]
    cases hget : root.get? (here ++ [name]) with
    | none => rfl
    | some node =>
      cases node with
      | link t target =>
        cases follow with
        | false => rfl
        | true => exact absurd (Node.passAt_eq_link_iff.mpr ⟨t, hget⟩) (hlink rfl target)
      | _ => simp only [walk, hget]
  | skip hdir hpart _ ih => rw [List.cons_append, walk_skip hdir hpart, ih hlink]
  | up hdir _ ih => rw [List.cons_append, walk_up hdir, ih hlink]
  | down hdir hpart hsub _ ih =>
    obtain ⟨t, entries, hget⟩ := Node.passAt_eq_dir_iff.mp hsub
    rw [List.cons_append, walk_entry hdir hpart, hget]
    exact ih hlink
  | link hdir hpart hsub _ ih =>
    obtain ⟨t, hget⟩ := Node.passAt_eq_link_iff.mp hsub
    rw [List.cons_append, walk_entry hdir hpart, hget]
    simpa using ih hlink

/-- What the last part of a walk comes to in its directory: the entry of that name, or whatever a
link is followed to, or a directory where the part names no entry. -/
inductive Ends (root : Node) (follow : Bool) (dir : Place) (name : Name) : Target → Prop
  | entry : IsEntry name → Ends root follow dir name (root.lookupAt dir name)
  | onward {target : Target} {path : Path} : IsEntry name → follow = true →
    root.passAt (dir ++ [name]) = some (.link path) → Ends root follow dir name target
  | dir {p : Place} {t : Traits} {entries : List (Name × Node)} : ¬ IsEntry name →
    Ends root follow dir name (.found p (.dir t entries))

theorem Ends.isEntry {target : Target} (h : Ends root follow dir name target)
    (hdir : ∀ p t entries, target ≠ .found p (.dir t entries)) : IsEntry name := by
  cases h with
  | entry he => exact he
  | onward he => exact he
  | dir => exact absurd rfl (hdir _ _ _)

theorem isEntry_cases (part : Name) : (part = [] ∨ part = [dot]) ∨ part = [dot, dot] ∨
    nameLimit < part.length ∨ IsEntry part := by
  by_cases hskip : part = [] ∨ part = [dot]
  · exact .inl hskip
  by_cases hdots : part = [dot, dot]
  · exact .inr (.inl hdots)
  obtain hlen | hlen := Nat.lt_or_ge nameLimit part.length
  · exact .inr (.inr (.inl hlen))
  rw [not_or] at hskip
  exact .inr (.inr (.inr ⟨hskip.1, hskip.2, hdots, hlen⟩))

theorem ends_dir (hn : ¬ IsEntry name) {target : Target} (hdir : root.passAt here = some .dir)
    (h : walk root follow making links here [] = .ok target) :
    Ends root follow dir name target := by
  obtain ⟨t, entries, hget⟩ := Node.passAt_eq_dir_iff.mp hdir
  simp only [walk, hget] at h
  cases h
  exact .dir hn

theorem ends_of_walk {target : Target}
    (h : walk root follow making links here [name] = .ok target) :
    Ends root follow here name target := by
  have hdir : root.passAt here = some .dir := isDir_of_walk h
  obtain hskip | rfl | hlen | he := isEntry_cases name
  · rw [walk_skip hdir hskip] at h
    exact ends_dir (fun he => hskip.elim he.ne_nil he.ne_dot) hdir h
  · rw [walk_up hdir] at h
    exact ends_dir (fun he => he.ne_dots rfl) (Node.passAt_dropLast hdir) h
  · rw [walk_long hdir hlen] at h
    cases h
  · by_cases hlink : follow = true ∧ ∃ path, root.passAt (here ++ [name]) = some (.link path)
    · obtain ⟨hfollow, path, hlink⟩ := hlink
      exact .onward he hfollow hlink
    · have hstay : Leads root links here [] here := .stay hdir
      have hlookup : walk root follow making links here [name] = .ok (root.lookupAt here name) :=
        walk_of_leads hstay he fun hfollow path hpath => hlink ⟨hfollow, path, hpath⟩
      obtain rfl : root.lookupAt here name = target := Except.ok.inj (hlookup.symm.trans h)
      exact .entry he

/-- A walk that succeeds leads to a directory and ends there. -/
theorem leads_of_walk {target : Target} {links : Nat} {here : Place} {init : List Name}
    (h : walk root follow making links here (init ++ [name]) = .ok target) :
    ∃ dir, Leads root links here init dir ∧ Ends root follow dir name target := by
  match init with
  | [] => exact ⟨here, .stay (isDir_of_walk h), ends_of_walk h⟩
  | part :: init =>
    have hdir : root.passAt here = some .dir := isDir_of_walk h
    rw [List.cons_append] at h
    obtain hskip | rfl | hlen | he := isEntry_cases part
    · rw [walk_skip hdir hskip] at h
      obtain ⟨dir, hleads, hends⟩ := leads_of_walk h
      exact ⟨dir, .skip hdir hskip hleads, hends⟩
    · rw [walk_up hdir] at h
      obtain ⟨dir, hleads, hends⟩ := leads_of_walk h
      exact ⟨dir, .up hdir hleads, hends⟩
    · rw [walk_long hdir hlen] at h
      cases h
    · rw [walk_entry hdir he] at h
      cases hget : root.get? (here ++ [part]) with
      | none => simp [hget] at h
      | some node =>
        rw [hget] at h
        cases node with
        | link t path =>
          cases links with
          | zero => simp at h
          | succ links =>
            -- what the link stands for comes before the parts that are left
            have hparts : walk root follow making links (path.baseOf here)
                (((Path.segments path).filter (· ≠ []) ++ init) ++ [name]) = .ok target := by
              simpa using h
            obtain ⟨dir, hleads, hends⟩ := leads_of_walk hparts
            exact ⟨dir, .link hdir he (Node.passAt_eq_link_iff.mpr ⟨t, hget⟩) hleads, hends⟩
        | _ =>
          obtain ⟨dir, hleads, hends⟩ := leads_of_walk h
          exact ⟨dir, .down hdir he hleads.isDir_start hleads, hends⟩
termination_by (links, init.length)

end System

end Scratchpad.Files
