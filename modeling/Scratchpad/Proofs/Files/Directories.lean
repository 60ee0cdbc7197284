import Scratchpad.Proofs.Files.Frame
import Scratchpad.Proofs.Files.Parts

/-!
# Directories

A path that aims at a name has a parent, which leads to the directory of that name. Where a path
leads to a directory, the path with a name added to it leads to the entry of that name, or on from
there if that is a link; with no name added it ends in a slash, which asks for a directory. Making the
parent of a path with all that is missing above it changes nothing but that new directories are
there, and if it succeeds then the directory was there, or it is new and has nothing in it; if it
fails then it leads to no directory.
-/

namespace Scratchpad.Files

open Files.Path (trim parts)

/-- One path is another one or one of those above it. -/
inductive Path.Above : Path → Path → Prop
  | self {p : Path} : Above p p
  | parent {p q r : Path} : p.parent? = some q → Above r q → Above r p

theorem Path.dropSlashes_of_trim {p : Path} (h : trim p = p) : dropSlashes p = p := by
  by_cases hnil : p = []
  · rw [hnil]
    rfl
  by_cases hroot : p = [slash]
  · rw [hroot]
    rfl
  obtain ⟨pre, name, hsplits⟩ := exists_splits h hnil hroot
  exact dropSlashes_of_not_endsInSlash hsplits.endsInSlash

/-! ## Ways to directories -/

/-- Parts at the end that carry no meaning may be left out. -/
theorem Leads.of_append {root : Node} {links : Nat} {here d : Place} {init tail : List Name}
    (h : Leads root links here (init ++ tail) d)
    (htail : ∀ part ∈ tail, part = [] ∨ part = [Path.dot]) : Leads root links here init d := by
  generalize hall : init ++ tail = all at h
  induction h generalizing init tail with
  | stay hdir =>
    obtain ⟨rfl, -⟩ := List.append_eq_nil_iff.mp hall
    exact .stay hdir
  | skip hdir hpart _ ih =>
    cases init with
    | nil =>
      obtain rfl := hall
      have hrest := fun part hpart => htail part (.tail _ hpart)
      exact ih hrest (List.nil_append _)
    | cons part init =>
      obtain ⟨rfl, rfl⟩ := List.cons.inj hall
      exact .skip hdir hpart (ih htail rfl)
  | up hdir _ ih =>
    cases init with
    | nil =>
      obtain rfl := hall
      simpa using htail _ (.head _)
    | cons part init =>
      obtain ⟨rfl, rfl⟩ := List.cons.inj hall
      exact .up hdir (ih htail rfl)
  | down hdir he hsub _ ih =>
    cases init with
    | nil =>
      obtain rfl := hall
      exact absurd (htail _ (.head _)) (by simp [he.ne_nil, he.ne_dot])
    | cons part init =>
      obtain ⟨rfl, rfl⟩ := List.cons.inj hall
      exact .down hdir he hsub (ih htail rfl)
  | link hdir he hsub _ ih =>
    cases init with
    | nil =>
      obtain rfl := hall
      exact absurd (htail _ (.head _)) (by simp [he.ne_nil, he.ne_dot])
    | cons part init =>
      obtain ⟨rfl, rfl⟩ := List.cons.inj hall
      exact .link hdir he hsub (ih htail (List.append_assoc ..))

namespace System
variable {root : Node} {fs fs' fs'' : System} {p q : Path} {d dir : Place} {name : Name}

/-- Where a way leads, a walk ends, whatever follows that carries no meaning. -/
theorem walk_of_leads_append {links : Nat} {here : Place} {init tail : List Name} {n : Node}
    (h : Leads root links here init d) (hn : root.get? d = some n)
    (htail : ∀ part ∈ tail, part = [] ∨ part = [Path.dot]) :
    walk root true false links here (init ++ tail) = .ok (.found d n) := by
  induction h generalizing tail with
  | @stay links here hdir =>
    rw [List.nil_append]
    induction tail with
    | nil => rw [walk, hn]
    | cons part tail ih =>
      rw [walk_skip hdir (htail part (.head _))]
      exact ih fun part hpart => htail part (.tail _ hpart)
  | skip hdir hpart _ ih => rw [List.cons_append, walk_skip hdir hpart, ih hn htail]
  | up hdir _ ih => rw [List.cons_append, walk_up hdir, ih hn htail]
  | down hdir hpart hsub _ ih =>
    obtain ⟨t, entries, hget⟩ := Node.passAt_eq_dir_iff.mp hsub
    rw [List.cons_append, walk_entry hdir hpart, hget]
    exact ih hn htail
  | @link links here d part rest target hdir hpart hsub _ ih =>
    obtain ⟨t, hget⟩ := Node.passAt_eq_link_iff.mp hsub
    rw [List.cons_append, walk_entry hdir hpart, hget]
    simp only [Bool.not_true, Bool.and_false, Bool.false_eq_true, if_false]
    split
    next hend =>
      obtain ⟨rfl, rfl⟩ := List.append_eq_nil_iff.mp (List.isEmpty_iff.mp hend)
      obtain ⟨slashes, hslashes, hmeaning⟩ := Path.segments_eq target
      have hskips : ∀ part ∈ slashes, part = [] ∨ part = [Path.dot] :=
        fun part hpart => .inl (hmeaning part hpart)
      have hwalk := ih hn hskips
      rw [Path.filter_segments, List.append_nil] at hwalk
      rwa [hslashes, List.append_nil, List.append_nil]
    next =>
      rw [← List.append_assoc]
      exact ih hn htail

/-- No part of a path that leads anywhere is too long. -/
theorem length_le_of_walk {follow making : Bool} {links : Nat} {here : Place} {init : List Name}
    {target : Target} (h : walk root follow making links here init = .ok target) :
    ∀ part ∈ init, part.length ≤ nameLimit := by
  match init with
  | [] => simp
  | part :: rest =>
    have hdir : root.passAt here = some .dir := isDir_of_walk h
    rw [List.forall_mem_cons]
    obtain hskip | rfl | hlen | he := isEntry_cases part
    · refine ⟨?_, length_le_of_walk (walk_skip hdir hskip ▸ h)⟩
      obtain rfl | rfl := hskip <;> decide
    · exact ⟨by decide, length_le_of_walk (walk_up hdir ▸ h)⟩
    · rw [walk_long hdir hlen] at h
      cases h
    · refine ⟨he.length_le, ?_⟩
      rw [walk_entry hdir he] at h
      cases hget : root.get? (here ++ [part]) with
      | none =>
        rw [hget] at h
        cases rest <;> simp at h ⊢
      | some node =>
        rw [hget] at h
        cases node with
        | link t target =>
          dsimp only at h
          split at h
          next hstop =>
            obtain ⟨rfl, -⟩ : rest = [] ∧ _ := by simpa using hstop
            simp
          next =>
            cases links with
            | zero => cases h
            | succ links =>
              intro part hpart
              exact length_le_of_walk h part (List.mem_append_right _ hpart)
        | _ => exact length_le_of_walk h
termination_by (links, init.length)

/-- What is found through a link stands at a path at which something is found in any case. -/
theorem found_of_walk {links : Nat} {here place : Place} {init : List Name} {n : Node}
    (h : walk root true false links here init = .ok (.found place n)) :
    ∃ place n, walk root false false links here init = .ok (.found place n) := by
  match init with
  | [] =>
    rw [walk] at h ⊢
    exact ⟨place, n, h⟩
  | part :: rest =>
    have hdir : root.passAt here = some .dir := isDir_of_walk h
    obtain hskip | rfl | hlen | he := isEntry_cases part
    · rw [walk_skip hdir hskip] at h ⊢
      exact found_of_walk h
    · rw [walk_up hdir] at h ⊢
      exact found_of_walk h
    · rw [walk_long hdir hlen] at h
      cases h
    · rw [walk_entry hdir he] at h ⊢
      cases hget : root.get? (here ++ [part]) with
      | none =>
        rw [hget] at h
        cases rest <;> simp at h
      | some node =>
        rw [hget] at h
        cases node with
        | link t target =>
          cases links with
          | zero => simp at h
          | succ links =>
            cases rest with
            | nil => exact ⟨_, _, rfl⟩
            | cons => exact found_of_walk (by simpa using h)
        | _ => exact found_of_walk h
termination_by (links, init.length)

/-! ## Paths to directories -/

/-- A path leads to a directory. -/
def Reaches (fs : System) (p : Path) (d : Place) : Prop :=
  ∃ t entries, fs.resolve true p = .ok (.found d (.dir t entries))

theorem isDir_iff : fs.isDir p = true ↔ ∃ d, fs.Reaches p d := by
  unfold isDir node? Reaches
  cases fs.resolve true p with
  | error e => simp [bind, Except.bind]
  | ok target =>
    cases target with
    | absent => simp [bind, Except.bind, throw, throwThe, MonadExceptOf.throw]
    | found place node => cases node <;> simp [bind, Except.bind, pure, Except.pure]

theorem Reaches.unique {d' : Place} (h : fs.Reaches p d) (h' : fs.Reaches p d') : d = d' := by
  obtain ⟨t, entries, h⟩ := h
  obtain ⟨t', entries', h'⟩ := h'
  cases h.symm.trans h'
  rfl

theorem Reaches.kept (h : fs.Reaches p d) (hcwd : fs'.cwd = fs.cwd)
    (hkept : Node.Kept fs.root fs'.root) : fs'.Reaches p d := by
  obtain ⟨t, entries, h⟩ := h
  obtain ⟨n, hn, hbare⟩ := resolve_of_kept hcwd hkept h
  cases n with
  | dir t' entries' => exact ⟨t', entries', hn⟩
  | _ => cases hbare

theorem Reaches.ne_nil (h : fs.Reaches p d) : p ≠ [] := by
  rintro rfl
  obtain ⟨t, entries, h⟩ := h
  cases h

theorem Reaches.isDir (h : fs.Reaches p d) : fs.root.passAt d = some .dir := by
  obtain ⟨t, entries, h⟩ := h
  exact Node.passAt_eq_dir_iff.mpr ⟨t, entries, get?_of_resolve h⟩

/-- The parent of a path that aims at a name leads to the directory of that name, unless it says
nothing and the directory is where the path starts. -/
theorem Aims.parent (h : fs.Aims p dir name) (he : IsEntry name) :
    p.fileName? = some name ∧
      ∃ parent, p.parent? = some parent ∧ (parent ≠ [] → fs.Reaches parent dir) := by
  obtain ⟨init, hinit, hleads⟩ := h.leads
  obtain ⟨pre, hsplits, rfl⟩ := Path.splits_of_segments hinit he.ne_nil he.ne_dot
  have htrimmed := hsplits.trim_eq.symm ▸ hsplits
  refine ⟨htrimmed.fileName? he.ne_dot he.ne_dots, _, htrimmed.parent?, fun hne => ?_⟩
  have hpre : pre <+: p := by
    rw [hsplits.eq]
    exact List.prefix_append ..
  have hparent : trim pre <+: p := (Path.trim_prefix_self pre).trans hpre
  have hstart : fs.startOf (trim pre) = fs.startOf p := by
    rw [startOf, startOf, Path.isAbsolute_trim,
      hsplits.isAbsolute fun hnil => hne (by rw [hnil]; rfl)]
  obtain ⟨k, hk⟩ := Path.parts_trim pre
  obtain ⟨slashes, hslashes, hmeaning⟩ := Path.segments_eq (trim pre)
  obtain ⟨t, entries, hget⟩ := Node.passAt_eq_dir_iff.mp hleads.isDir_end
  refine ⟨t, entries, ?_⟩
  have hnul : (trim pre).contains 0 = false := by
    rw [List.contains_eq_mem, decide_eq_false_iff_not]
    intro hmem
    have hp : p.contains 0 = true := by simpa using hparent.subset hmem
    rw [h.noNul] at hp
    cases hp
  rw [hk] at hleads
  have hways := hleads.of_append fun part hpart => .inr (List.eq_of_mem_replicate hpart)
  rw [System.resolve, System.locate, hnul, if_neg (by simp), if_neg hne,
    if_neg (Nat.not_le.mpr (hparent.length_le.trans_lt h.length_lt)), hslashes, hstart]
  exact walk_of_leads_append hways hget fun part hpart => .inl (hmeaning part hpart)

/-- A path that leads to a directory below another one does so by an entry of that one. -/
theorem Reaches.parent {parent : Path} (h : fs.Reaches p d) (htrim : trim p = p)
    (hdots : [Path.dot, Path.dot] ∉ parts p) (hparent : p.parent? = some parent)
    (hne : parent ≠ []) :
    ∃ dir name, fs.Reaches parent dir ∧ fs.root.get? (dir ++ [name]) ≠ none := by
  obtain ⟨t, entries, hresolve⟩ := h
  obtain ⟨dir, name, haims, hends⟩ := aims_of_locate hresolve
  have he : IsEntry name := by
    obtain ⟨pre, last, hsplits, hdot⟩ := Path.splits_of_trim htrim hparent hne
    obtain ⟨init, hinit, -⟩ := haims.leads
    obtain ⟨-, rfl⟩ := List.append_singleton_inj.mp (hsplits.segments.symm.trans hinit)
    refine ⟨hsplits.ne_nil, hdot, ?_, ?_⟩
    · rintro rfl
      exact hdots (by simp [hsplits.parts])
    · simp only [System.resolve, locate] at hresolve
      repeat' split at hresolve
      all_goals first
        | cases hresolve
        | exact length_le_of_walk hresolve _ (by simp [hinit])
  obtain ⟨-, parent', hparent', hreaches⟩ := haims.parent he
  obtain rfl : parent = parent' := Option.some.inj (hparent.symm.trans hparent')
  refine ⟨dir, name, hreaches hne, fun hnone => ?_⟩
  have hlookup : fs.root.lookupAt dir name = .absent dir name := by rw [Node.lookupAt, hnone]
  have hresolve' : fs.resolve true p = .ok (fs.root.lookupAt dir name) :=
    haims.locate he fun _ target => by simp [Node.passAt, hnone]
  rw [hlookup, hresolve] at hresolve'
  cases hresolve'

/-! ## The paths of entries -/

/-- A slash at the end asks for a directory. -/
theorem isDir_of_endsInSlash {n : Node} (hslash : p.endsInSlash = true) (h : fs.node? p = .ok n) :
    n.isDir = true := by
  obtain ⟨target, hresolve, hn⟩ := ok_of_bind h
  obtain ⟨d, name, haims, hends⟩ := aims_of_locate hresolve
  obtain ⟨init, hinit, -⟩ := haims.leads
  rw [Path.segments, if_pos hslash] at hinit
  obtain ⟨-, rfl⟩ := List.append_singleton_inj.mp hinit
  cases target with
  | absent => cases hn
  | found place m =>
    cases hn
    by_contra hdir
    have he : IsEntry [] := hends.isEntry fun p t entries heq => by
      cases heq
      exact hdir rfl
    exact he.ne_nil rfl

/-- A walk that ends in a directory has been led there. -/
theorem leads_of_found {making : Bool} {links : Nat} {here : Place} {init : List Name} {t : Traits}
    {entries : List (Name × Node)}
    (h : walk root true making links here init = .ok (.found d (.dir t entries))) :
    Leads root links here init d := by
  match init with
  | [] =>
    rw [walk] at h
    split at h
    next hget =>
      cases h
      exact .stay (Node.passAt_eq_dir_iff.mpr ⟨t, entries, hget⟩)
    next => cases h
  | part :: rest =>
    have hdir : root.passAt here = some .dir := isDir_of_walk h
    obtain hskip | rfl | hlen | he := isEntry_cases part
    · exact .skip hdir hskip (leads_of_found (walk_skip hdir hskip ▸ h))
    · exact .up hdir (leads_of_found (walk_up hdir ▸ h))
    · rw [walk_long hdir hlen] at h
      cases h
    · rw [walk_entry hdir he] at h
      cases hget : root.get? (here ++ [part]) with
      | none =>
        rw [hget] at h
        cases rest <;> simp at h
      | some m =>
        rw [hget] at h
        cases m with
        | link t' target =>
          cases links with
          | zero => simp at h
          | succ links =>
            have honward : Leads root links (target.baseOf here)
                ((if rest.isEmpty then target.segments else target.segments.filter (· ≠ [])) ++ rest)
                d := leads_of_found (by simpa using h)
            refine .link hdir he (Node.passAt_eq_link_iff.mpr ⟨t', hget⟩) ?_
            split at honward
            next hrest =>
              obtain rfl : rest = [] := List.isEmpty_iff.mp hrest
              obtain ⟨slashes, hslashes, hmeaning⟩ := Path.segments_eq target
              rw [List.append_nil, hslashes] at honward
              rw [Path.filter_segments, List.append_nil]
              exact honward.of_append fun part hpart => .inl (hmeaning part hpart)
            next => exact honward
        | _ =>
          have hleads := leads_of_found h
          exact .down hdir he hleads.isDir_start hleads
termination_by (links, init.length)

theorem Reaches.leads (h : fs.Reaches p d) :
    Leads fs.root linkLimit (fs.startOf p) (parts p) d := by
  obtain ⟨t, entries, hresolve⟩ := h
  obtain ⟨slashes, hslashes, hmeaning⟩ := Path.segments_eq p
  simp only [resolve, locate, hslashes] at hresolve
  repeat' split at hresolve
  all_goals first
    | cases hresolve
    | exact (leads_of_found hresolve).of_append fun part hpart => .inl (hmeaning part hpart)

theorem Reaches.noNul (h : fs.Reaches p d) : p.contains 0 = false := by
  obtain ⟨t, entries, hresolve⟩ := h
  obtain ⟨_, _, haims, _⟩ := aims_of_locate hresolve
  exact haims.noNul

/-- A name by which the operating system lists an entry. -/
structure Listed (name : Name) : Prop extends IsEntry name where
  noSlash : Path.slash ∉ name
  noNul : 0 ∉ name

theorem Reaches.aims_join (h : fs.Reaches q d) (hname : Listed name)
    (hlength : (q.join name).length < pathLimit) : fs.Aims (q.join name) d name := by
  obtain ⟨sep, hjoin, hsep, hopens⟩ := Path.exists_of_join h.ne_nil name
  have hparts : parts (q ++ sep) = parts q := by
    obtain rfl | rfl := hsep
    · rw [List.append_nil]
    · exact Path.parts_concat_slash q
  have hstart : fs.startOf (q ++ sep ++ name) = fs.startOf q := by
    rw [startOf, startOf, Path.isAbsolute, Path.isAbsolute, List.append_assoc,
      List.head?_append_of_ne_nil _ h.ne_nil]
  have hnul : (q ++ sep ++ name).contains 0 = false := by
    have hdir : 0 ∉ q := by simpa using h.noNul
    have hsep : 0 ∉ sep := by obtain rfl | rfl := hsep <;> decide
    simp [hdir, hsep, hname.noNul]
  rw [hjoin] at hlength ⊢
  refine ⟨hnul, by simp [hname.ne_nil], hlength, parts q, ?_, ?_⟩
  · rw [Path.segments_concat hopens hname.ne_nil hname.noSlash, hparts]
  · rw [hstart]
    exact h.leads

/-- The path of an entry leads to the entry, unless that is a link. -/
theorem node?_join {n : Node} (h : fs.Reaches q d) (hname : Listed name)
    (hlength : (q.join name).length < pathLimit) (hget : fs.root.get? (d ++ [name]) = some n)
    (hlink : n.isLink = false) : fs.node? (q.join name) = .ok n := by
  have haims := h.aims_join hname hlength
  have hresolve : fs.resolve true (q.join name) = .ok (fs.root.lookupAt d name) :=
    haims.locate hname.toIsEntry fun _ target htarget => by
      obtain ⟨t, hlinked⟩ := Node.passAt_eq_link_iff.mp htarget
      cases hget.symm.trans hlinked
      cases hlink
  rw [node?, hresolve, Node.lookupAt, hget]
  rfl

/-! ## What is made -/

/-- Directories were made, to which a path leads or one above it, and nothing else has changed. -/
structure Made (p : Path) (fs fs' : System) : Prop where
  cwd : fs'.cwd = fs.cwd
  bareAt : ∀ place, fs'.root.bareAt place = fs.root.bareAt place ∨
    fs.root.get? place = none ∧ ∃ above, above.Above p ∧ fs'.Reaches above place

/-- A path leads to a directory that has nothing in it. -/
def Fresh (fs : System) (p : Path) : Prop :=
  ∃ d t, fs.Reaches p d ∧ fs.root.get? d = some (.dir t [])

/-- In an empty directory nothing stands. -/
theorem Fresh.get?_of_aims {parent : Path} (h : fs.Fresh parent) (hparent : p.parent? = some parent)
    (haims : fs.Aims p dir name) (he : IsEntry name) : fs.root.get? (dir ++ [name]) = none := by
  obtain ⟨d, t, hd, hempty⟩ := h
  obtain ⟨-, parent', hparent', hreaches⟩ := haims.parent he
  obtain rfl : parent = parent' := Option.some.inj (hparent.symm.trans hparent')
  obtain rfl : d = dir := hd.unique (hreaches hd.ne_nil)
  exact Node.bottom_of_empty hempty name []

namespace Made

theorem refl (p : Path) (fs : System) : Made p fs fs :=
  ⟨rfl, fun _ => .inl rfl⟩

theorem kept (h : Made p fs fs') : Node.Kept fs.root fs'.root := by
  intro place n hn
  obtain hsame | ⟨hnone, -⟩ := h.bareAt place
  · rw [hsame, hn]
  · rw [Node.bareAt_eq_none_iff.mpr hnone] at hn
    cases hn

/-- What is no directory was there before. -/
theorem get?_of_file (h : Made p fs fs') {place : Place} {n : Node}
    (hget : fs'.root.get? place = some n) (hfile : n.isDir = false) :
    fs.root.get? place = some n := by
  obtain hsame | ⟨-, above, -, hreaches⟩ := h.bareAt place
  · obtain ⟨n', hget', hbare⟩ := Node.exists_of_bareAt_eq hsame.symm hget
    rw [hget', Node.eq_of_bare hbare hfile]
  · obtain ⟨t, entries, hdir⟩ := Node.passAt_eq_dir_iff.mp hreaches.isDir
    cases hget.symm.trans hdir
    cases hfile

theorem trans (h : Made p fs fs') (h' : Made p fs' fs'') : Made p fs fs'' where
  cwd := h'.cwd.trans h.cwd
  bareAt place := by
    obtain hsame' | ⟨hnone', above, habove, hreaches⟩ := h'.bareAt place
    · refine (h.bareAt place).imp (hsame'.trans ·) fun ⟨hnone, above, habove, hreaches⟩ => ?_
      exact ⟨hnone, above, habove, hreaches.kept h'.cwd h'.kept⟩
    · refine .inr ⟨?_, above, habove, hreaches⟩
      by_contra hsome
      obtain ⟨n, hn⟩ := Option.ne_none_iff_exists'.mp hsome
      obtain ⟨n', hn', -⟩ := h.kept.exists hn
      rw [hnone'] at hn'
      cases hn'

theorem parent {parent : Path} (h : Made parent fs fs') (hparent : p.parent? = some parent) :
    Made p fs fs' where
  cwd := h.cwd
  bareAt place := (h.bareAt place).imp_right fun ⟨hnone, above, habove, hreaches⟩ =>
    ⟨hnone, above, .parent hparent habove, hreaches⟩

end Made

theorem Aims.reaches (h : fs.Aims p dir name) (he : IsEntry name) {t : Traits}
    {entries : List (Name × Node)} (hget : fs.root.get? (dir ++ [name]) = some (.dir t entries)) :
    fs.Reaches p (dir ++ [name]) := by
  have hlink (target : Path) : fs.root.passAt (dir ++ [name]) ≠ some (.link target) := by
    simp [Node.passAt, hget, Node.pass?]
  refine ⟨t, entries, ?_⟩
  rw [System.resolve, h.locate he fun _ => hlink, Node.lookupAt, hget]

theorem makeDir_of_ok (htrim : trim p = p) (h : fs.makeDir p = .ok fs') :
    Made p fs fs' ∧ fs'.Fresh p := by
  obtain ⟨target, hresolve, h⟩ := ok_of_bind h
  rw [Path.dropSlashes_of_trim htrim] at hresolve
  cases target with
  | found => cases h
  | absent dir name =>
    obtain ⟨haims, he, hnone⟩ := aims_of_absent hresolve
    obtain ⟨t, rfl⟩ : ∃ t, fs.insert dir name (.dir t []) = fs' := ⟨_, Except.ok.inj h⟩
    have hpass : fs.root.passAt (dir ++ [name]) = none := by
      rw [Node.passAt, hnone, Option.bind_none]
    have halike : AlikeBut [dir ++ [name]] fs (fs.insert dir name (.dir t [])) :=
      alike_of_insert haims.isDir (by simp [hpass]) fun _ _ => rfl
    have hwithin : Within fs (fs.insert dir name (.dir t [])) :=
      halike.within (by simpa using hpass)
    have hnew : (fs.insert dir name (.dir t [])).root.get? (dir ++ [name]) = some (.dir t []) :=
      Node.get?_insert fs.now haims.isDir _
    have hreaches := (haims.mono hwithin).reaches he hnew
    refine ⟨⟨rfl, fun place => ?_⟩, _, _, hreaches, hnew⟩
    by_cases hplace : place = dir ++ [name]
    · subst hplace
      exact .inr ⟨hnone, p, .self, hreaches⟩
    · exact .inl (halike.bareAt place (by simpa using hplace))

theorem makeDir_of_reaches (htrim : trim p = p) (h : fs.Reaches p d) :
    fs.makeDir p = .error .alreadyExists := by
  obtain ⟨t, entries, hresolve⟩ := h
  obtain ⟨place, n, hfound⟩ : ∃ place n, fs.resolve false p = .ok (.found place n) := by
    simp only [System.resolve, locate] at hresolve ⊢
    repeat' split at hresolve
    all_goals first
      | cases hresolve
      | (simp only [*, if_false, Bool.false_eq_true]; exact found_of_walk hresolve)
  rw [makeDir, Path.dropSlashes_of_trim htrim, hfound]
  rfl

/-- What there is after a path was to be made with those above it: it leads to a directory that was
there before or is empty, or making it has failed and it leads to none. -/
structure Outcome (p : Path) (fs : System) (result : System × Option Error) : Prop where
  made : Made p fs result.1
  fresh : result.2 = none → result.1 = fs ∨ result.1.Fresh p
  blocked : result.2 ≠ none → ∀ d, ¬ result.1.Reaches p d

/-- An error counts only if no directory is there. -/
theorem outcome_of_error (hmade : Made p fs fs')
    (hfresh : ∀ d, fs'.Reaches p d → fs' = fs ∨ fs'.Fresh p) (e : Error) :
    Outcome p fs (fs', if fs'.isDir p then none else some e) := by
  split
  next hdir =>
    obtain ⟨d, hreaches⟩ := isDir_iff.mp hdir
    exact ⟨hmade, fun _ => hfresh d hreaches, fun hsome => absurd rfl hsome⟩
  next hdir => exact ⟨hmade, nofun, fun _ d hreaches => hdir (isDir_iff.mpr ⟨d, hreaches⟩)⟩

theorem makeDirsWithin_nil (fuel : Nat) (fs : System) :
    makeDirsWithin fuel fs [] = (fs, none) := by
  unfold makeDirsWithin
  rw [if_pos rfl]

theorem makeDirs_nil (fs : System) : fs.makeDirs [] = (fs, none) :=
  makeDirsWithin_nil 0 fs

/-- If no part of a path leads up, then making it and those above it comes out well. -/
theorem makeDirsWithin_outcome (fuel : Nat) (fs : System) (htrim : trim p = p)
    (hdots : [Path.dot, Path.dot] ∉ parts p) : Outcome p fs (makeDirsWithin fuel fs p) := by
  induction fuel, fs, p using makeDirsWithin.induct with
  | case1 fuel fs =>
    rw [makeDirsWithin_nil]
    exact ⟨.refl [] fs, fun _ => .inl rfl, fun hsome => absurd rfl hsome⟩
  | case2 fuel fs p hp made hmake =>
    obtain ⟨hmade, hfresh⟩ := makeDir_of_ok htrim hmake
    unfold makeDirsWithin
    rw [if_neg hp, hmake]
    exact ⟨hmade, fun _ => .inr hfresh, fun hsome => absurd rfl hsome⟩
  | case3 fs p hp hmake fuel parent hparent above e habove ih =>
    have hout := ih (Path.trim_of_parent? hparent)
      fun hmem => hdots (Path.mem_parts_of_parent? hparent hmem)
    rw [habove] at hout
    have hne : parent ≠ [] := by
      rintro rfl
      rw [makeDirsWithin_nil] at habove
      cases habove
    unfold makeDirsWithin
    rw [if_neg hp, hmake]
    simp only [hparent, habove]
    refine ⟨hout.made.parent hparent, nofun, fun _ d hreaches => ?_⟩
    obtain ⟨dir, -, hdir, -⟩ := hreaches.parent htrim hdots hparent hne
    exact hout.blocked nofun dir hdir
  | case4 fs p hp hmake fuel parent hparent above habove made hmake' ih =>
    have hout := ih (Path.trim_of_parent? hparent)
      fun hmem => hdots (Path.mem_parts_of_parent? hparent hmem)
    rw [habove] at hout
    obtain ⟨hmade, hfresh⟩ := makeDir_of_ok htrim hmake'
    unfold makeDirsWithin
    rw [if_neg hp, hmake]
    simp only [hparent, habove, hmake']
    exact ⟨(hout.made.parent hparent).trans hmade, fun _ => .inr hfresh,
      fun hsome => absurd rfl hsome⟩
  | case5 fs p hp hmake fuel parent hparent above habove e hmake' ih =>
    have hout := ih (Path.trim_of_parent? hparent)
      fun hmem => hdots (Path.mem_parts_of_parent? hparent hmem)
    rw [habove] at hout
    unfold makeDirsWithin
    rw [if_neg hp, hmake]
    simp only [hparent, habove, hmake']
    refine outcome_of_error (hout.made.parent hparent) (fun d hreaches => ?_) e
    obtain rfl | ⟨dir, t, hdir, hempty⟩ := hout.fresh rfl
    · exact .inl rfl
    · -- in an empty directory the path leads to nothing
      obtain ⟨dir', name, hdir', hentry⟩ := hreaches.parent htrim hdots hparent hdir.ne_nil
      obtain rfl := hdir.unique hdir'
      exact absurd (Node.bottom_of_empty hempty name []) hentry
  | case6 fuel fs p hp hmake hlast =>
    have hresult : makeDirsWithin fuel fs p = (fs, some .noEntry) := by
      unfold makeDirsWithin
      rw [if_neg hp, hmake]
      dsimp only
      split
      next fuel parent hparent => exact (hlast fuel parent rfl hparent).elim
      next => rfl
    rw [hresult]
    refine ⟨.refl p fs, nofun, fun _ d hreaches => ?_⟩
    cases hmake.symm.trans (makeDir_of_reaches htrim hreaches)
  | case7 fuel fs p hp e he hmake =>
    have hresult : makeDirsWithin fuel fs p = (fs, if fs.isDir p then none else some e) := by
      unfold makeDirsWithin
      rw [if_neg hp, hmake]
      cases e <;> first | rfl | exact absurd rfl he
    rw [hresult]
    exact outcome_of_error (.refl p fs) (fun _ _ => .inl rfl) e

/-- What making a directory keeps is kept while a path is made. -/
theorem makeDirsWithin_keeps {P : System → Prop}
    (hstep : ∀ fs fs' q, P fs → fs.makeDir q = .ok fs' → P fs') (fuel : Nat) {fs : System}
    (h : P fs) : P (makeDirsWithin fuel fs p).1 := by
  induction fuel, fs, p using makeDirsWithin.induct with
  | case1 fuel fs =>
    rw [makeDirsWithin_nil]
    exact h
  | case2 fuel fs p hp made hmake =>
    unfold makeDirsWithin
    rw [if_neg hp, hmake]
    exact hstep _ _ _ h hmake
  | case3 fs p hp hmake fuel parent hparent above e habove ih =>
    have habove' := ih h
    rw [habove] at habove'
    unfold makeDirsWithin
    rw [if_neg hp, hmake]
    simpa only [hparent, habove] using habove'
  | case4 fs p hp hmake fuel parent hparent above habove made hmake' ih =>
    have habove' := ih h
    rw [habove] at habove'
    unfold makeDirsWithin
    rw [if_neg hp, hmake]
    simpa only [hparent, habove, hmake'] using hstep _ _ _ habove' hmake'
  | case5 fs p hp hmake fuel parent hparent above habove e hmake' ih =>
    have habove' := ih h
    rw [habove] at habove'
    unfold makeDirsWithin
    rw [if_neg hp, hmake]
    simpa only [hparent, habove, hmake'] using habove'
  | case6 fuel fs p hp hmake hlast =>
    unfold makeDirsWithin
    rw [if_neg hp, hmake]
    dsimp only
    split
    next fuel parent hparent => exact (hlast fuel parent rfl hparent).elim
    next => exact h
  | case7 fuel fs p hp e he hmake =>
    unfold makeDirsWithin
    rw [if_neg hp, hmake]
    cases e <;> first | exact h | exact absurd rfl he

/-! ## Ways through links -/

/-- Followed to its end, a way to a directory comes there or follows too many links. -/
theorem walk_of_leads_dir {links : Nat} {here : Place} {init : List Name}
    (h : Leads root links here init d) (making : Bool) (k : Nat) {tail : List Name}
    (htail : ∀ part ∈ tail, part = []) :
    (∃ t entries, walk root true making k here (init ++ tail) = .ok (.found d (.dir t entries))) ∨
      walk root true making k here (init ++ tail) = .error .linkLoop := by
  induction h generalizing k tail with
  | @stay links here hdir =>
    obtain ⟨t, entries, hget⟩ := Node.passAt_eq_dir_iff.mp hdir
    refine .inl ⟨t, entries, ?_⟩
    induction tail with
    | nil => simp [walk, hget]
    | cons part tail ih =>
      obtain ⟨hpart, htail⟩ := List.forall_mem_cons.mp htail
      rw [List.nil_append, walk_skip hdir (.inl hpart)]
      exact ih htail
  | skip hdir hpart _ ih =>
    rw [List.cons_append, walk_skip hdir hpart]
    exact ih k htail
  | up hdir _ ih =>
    rw [List.cons_append, walk_up hdir]
    exact ih k htail
  | @down links here d part rest hdir he hsub _ ih =>
    obtain ⟨t, entries, hget⟩ := Node.passAt_eq_dir_iff.mp hsub
    rw [List.cons_append, walk_entry hdir he, hget]
    exact ih k htail
  | @link links here d part rest target hdir he hsub _ ih =>
    obtain ⟨t, hget⟩ := Node.passAt_eq_link_iff.mp hsub
    rw [List.cons_append, walk_entry hdir he, hget]
    simp only [Bool.not_true, Bool.and_false, Bool.false_eq_true, if_false]
    cases k with
    | zero => exact .inr rfl
    | succ k =>
      by_cases hlast : rest ++ tail = []
      · -- the link is the last part, and asks for a directory where its target does
        obtain ⟨rfl, rfl⟩ := List.append_eq_nil_iff.mp hlast
        obtain ⟨onward, hsegments, honward⟩ := Path.segments_eq target
        have hwalk := ih k honward
        rw [Path.filter_segments, List.append_nil, ← hsegments] at hwalk
        simpa using hwalk
      · rw [if_neg (by simpa using hlast), ← List.append_assoc]
        exact ih k htail

/-- A path that leads through what it leads to reaches a directory or follows too many links. -/
theorem Aims.straight (h : fs.Aims p dir name) (he : IsEntry name)
    (hreaches : ∀ d, ¬ fs.Reaches p d) (hloop : fs.resolve true p ≠ .error .linkLoop) :
    fs.Straight p := by
  rw [straight_iff h he]
  cases hlink : fs.root.passAt (dir ++ [name]) with
  | none => exact h.erase hlink
  | some pass =>
    cases pass with
    | dir =>
      obtain ⟨t, entries, hget⟩ := Node.passAt_eq_dir_iff.mp hlink
      exact absurd (h.reaches he hget) (hreaches _)
    | link target =>
      obtain ⟨t, hget⟩ := Node.passAt_eq_link_iff.mp hlink
      obtain ⟨init, hinit, hleads⟩ := h.leads
      have hkept (q : Place) (x : Pass) (hq : q ≠ dir ++ [name])
          (hx : fs.root.passAt q = some x) : (fs.erase (dir ++ [name])).root.passAt q = some x := by
        refine (erase_shut.passAt_elsewhere ?_).trans hx
        rintro ⟨rest, rfl⟩
        cases rest with
        | nil => exact hq (List.append_nil _)
        | cons key rest =>
          rw [Node.passAt, Node.get?_append, hget] at hx
          cases hx
      obtain hsame | ⟨links, d, honward⟩ := hleads.through hlink hkept
      · exact ⟨h.noNul, h.ne_nil, h.length_lt, init, hinit, hsame⟩
      · -- what the link leads to is what the path leads to
        have hlast : Leads fs.root (links + 1) dir [name] d :=
          .link h.isDir he hlink (by rwa [List.append_nil])
        have hwalk := walk_of_leads_dir (hleads.append hlast) false linkLimit
          (List.forall_mem_nil _)
        have hresolve : fs.resolve true p =
            walk fs.root true false linkLimit (fs.startOf p) (Path.segments p) := by
          rw [System.resolve, System.locate, h.noNul, if_neg (by simp), if_neg h.ne_nil,
            if_neg (Nat.not_le.mpr h.length_lt)]
        rw [List.append_nil, ← hinit, ← hresolve] at hwalk
        obtain ⟨t, entries, hdir⟩ | hlong := hwalk
        · exact absurd ⟨t, entries, hdir⟩ (hreaches d)
        · exact absurd hlong hloop

end System

end Scratchpad.Files
