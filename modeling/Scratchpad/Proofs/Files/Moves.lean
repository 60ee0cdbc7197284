import Scratchpad.Proofs.Files.Walk

/-!
# Files written and moved

A usable path aims at a name in a directory, to which its other parts lead. A file is written where
its path aims, unless a link is there to be followed, and moving it leaves passable what was
passable before, but for what it replaces.
-/

namespace Scratchpad.Files

namespace Path
variable {p : Path}

theorem eq_slash_of_split (h : ∀ part ∈ split p, part = []) : ∀ c ∈ p, c = slash := by
  induction p with
  | nil => simp
  | cons c p ih =>
    rw [split, List.splitOn, List.splitOnP_cons_eq_if_modifyHead] at h
    split at h
    next hc =>
      have hp : ∀ c ∈ p, c = slash := ih fun part hpart => h part (.tail _ hpart)
      exact List.forall_mem_cons.mpr ⟨eq_of_beq hc, hp⟩
    next =>
      obtain ⟨part, parts, hparts⟩ := List.exists_cons_of_ne_nil (List.splitOnP_ne_nil _ p)
      rw [hparts] at h
      cases h _ (.head _)

theorem segments_ne_nil (h : p ≠ []) : segments p ≠ [] := by
  intro hnil
  unfold segments at hnil
  split at hnil
  next => simp at hnil
  next hend =>
    have hsplit : ∀ part ∈ split p, part = [] := by simpa using hnil
    have hlast : p.getLast h = slash := eq_slash_of_split hsplit _ (List.getLast_mem h)
    exact hend (by simp [endsInSlash, List.getLast?_eq_getLast_of_ne_nil h, hlast])

theorem dropSlashes_of_not_endsInSlash (h : endsInSlash p = false) : dropSlashes p = p := by
  cases p using List.reverseRecOn with
  | nil => rfl
  | append_singleton p c =>
    have hc : c ≠ slash := by simpa [endsInSlash] using h
    simp [dropSlashes, hc]

end Path

namespace System
variable {fs fs' fs'' : System} {p : Path} {dir dir' : Place} {name name' : Name}

/-- All parts of a path but the last lead to a directory. -/
structure Aims (fs : System) (p : Path) (dir : Place) (name : Name) : Prop where
  noNul : p.contains 0 = false
  ne_nil : p ≠ []
  length_lt : p.length < pathLimit
  leads : ∃ init, Path.segments p = init ++ [name] ∧
    Leads fs.root linkLimit (fs.startOf p) init dir

/-- What can be passed in one file system can be passed in another. -/
structure Within (fs fs' : System) : Prop where
  cwd : fs.cwd = fs'.cwd
  passAt : ∀ q x, fs.root.passAt q = some x → fs'.root.passAt q = some x

/-- One file system is another with a place shut, so that no way leads there or further on. -/
structure Shut (place : Place) (fs fs' : System) : Prop where
  cwd : fs'.cwd = fs.cwd
  passAt : ∀ q, fs'.root.passAt q = if place <+: q then none else fs.root.passAt q

theorem Within.startOf (h : Within fs fs') (p : Path) : fs.startOf p = fs'.startOf p := by
  rw [System.startOf, System.startOf, h.cwd]

namespace Shut
variable {place q : Place}

theorem passAt_elsewhere (h : Shut place fs fs') (hq : ¬ place <+: q) :
    fs'.root.passAt q = fs.root.passAt q := by
  rw [h.passAt, if_neg hq]

theorem not_prefix_of_passAt (h : Shut place fs fs') {x : Pass} (hx : fs'.root.passAt q = some x) :
    ¬ place <+: q := by
  intro hq
  rw [h.passAt, if_pos hq] at hx
  cases hx

theorem within (h : Shut place fs fs') : Within fs' fs where
  cwd := h.cwd
  passAt _ _ hx := (h.passAt_elsewhere (h.not_prefix_of_passAt hx)).symm.trans hx

/-- Where nothing passes it is shut. -/
theorem refl (hplace : fs.root.passAt place = none) : Shut place fs fs where
  cwd := rfl
  passAt q := by
    split
    next hq => exact Node.passAt_below hplace hq
    next => rfl

theorem trans (h : Shut place fs fs') {place' : Place} (h' : Shut place' fs' fs'')
    (hplace : fs.root.passAt place = none) : Shut place' fs fs'' where
  cwd := h'.cwd.trans h.cwd
  passAt q := by
    rw [h'.passAt, h.passAt]
    split
    next => rfl
    next =>
      split
      next hq => exact (Node.passAt_below hplace hq).symm
      next => rfl

end Shut

theorem erase_shut : Shut (dir ++ [name]) fs (fs.erase (dir ++ [name])) where
  cwd := rfl
  passAt q := by
    simp only [erase, List.dropLast_concat, List.getLast?_concat, Option.getD_some]
    exact Node.passAt_erase fs.now q

theorem get?_erase_place : (fs.erase (dir ++ [name])).root.get? (dir ++ [name]) = none := by
  simp only [erase, List.dropLast_concat, List.getLast?_concat, Option.getD_some]
  exact Node.get?_erase fs.now

theorem insert_shut {node : Node} (hleaf : node.pass? = none) :
    Shut (dir ++ [name]) fs (fs.insert dir name node) where
  cwd := rfl
  passAt := Node.passAt_insert fs.now hleaf

namespace Aims

theorem mono (h : fs.Aims p dir name) (hle : Within fs fs') : fs'.Aims p dir name where
  noNul := h.noNul
  ne_nil := h.ne_nil
  length_lt := h.length_lt
  leads := by
    obtain ⟨init, hinit, hleads⟩ := h.leads
    exact ⟨init, hinit, hle.startOf p ▸ hleads.mono hle.passAt⟩

theorem isDir (h : fs.Aims p dir name) : fs.root.passAt dir = some .dir := by
  obtain ⟨init, _, hleads⟩ := h.leads
  exact hleads.isDir_end

theorem locate (h : fs.Aims p dir name) (he : IsEntry name) {follow making : Bool}
    (hlink : follow = true → ∀ target, fs.root.passAt (dir ++ [name]) ≠ some (.link target)) :
    fs.locate follow making p = .ok (fs.root.lookupAt dir name) := by
  obtain ⟨init, hinit, hleads⟩ := h.leads
  rw [System.locate, h.noNul, if_neg (by simp), if_neg h.ne_nil,
    if_neg (Nat.not_le.mpr h.length_lt), hinit]
  exact walk_of_leads hleads he hlink

theorem resolve (h : fs.Aims p dir name) (he : IsEntry name) :
    fs.resolve false p = .ok (fs.root.lookupAt dir name) :=
  h.locate he (by simp)

theorem resolve_eq_found_iff (h : fs.Aims p dir name) (he : IsEntry name) {place : Place}
    {node : Node} :
    fs.resolve false p = .ok (.found place node) ↔
      place = dir ++ [name] ∧ fs.root.get? (dir ++ [name]) = some node := by
  rw [h.resolve he, Except.ok.injEq, Node.lookupAt_eq_found_iff]

theorem name_eq (h : fs.Aims p dir name) (h' : fs'.Aims p dir' name') : name = name' := by
  obtain ⟨init, hinit, _⟩ := h.leads
  obtain ⟨init', hinit', _⟩ := h'.leads
  exact (List.append_singleton_inj.mp (hinit.symm.trans hinit')).2

/-- A path aims in one direction only. -/
theorem dir_eq (h : fs.Aims p dir name) (h' : fs.Aims p dir' name) (he : IsEntry name) :
    dir = dir' := by
  have hlookup : fs.root.lookupAt dir name = fs.root.lookupAt dir' name :=
    Except.ok.inj ((h.resolve he).symm.trans (h'.resolve he))
  have hplace : dir ++ [name] = dir' ++ [name] := Node.place_eq_of_lookupAt hlookup
  exact List.append_cancel_right hplace

/-- A path aims alike where all can be passed that can be passed in each of two file systems. -/
theorem inter (h : fs.Aims p dir name) (h' : fs'.Aims p dir' name') {base : System}
    (hbase : Within fs base) (hbase' : Within fs' base) (hcwd : fs''.cwd = base.cwd)
    (hle : ∀ q x, fs.root.passAt q = some x → fs'.root.passAt q = some x →
      fs''.root.passAt q = some x) :
    fs''.Aims p dir name where
  noNul := h.noNul
  ne_nil := h.ne_nil
  length_lt := h.length_lt
  leads := by
    obtain ⟨init, hinit, hleads⟩ := h.leads
    obtain ⟨init', hinit', hleads'⟩ := h'.leads
    obtain ⟨rfl, rfl⟩ := List.append_singleton_inj.mp (hinit.symm.trans hinit')
    have hstart : fs.startOf p = fs''.startOf p := by
      rw [startOf, startOf, hbase.cwd, hcwd]
    have hstart' : fs'.startOf p = fs''.startOf p := by
      rw [startOf, startOf, hbase'.cwd, hcwd]
    rw [hstart] at hleads
    rw [hstart'] at hleads'
    refine ⟨init, hinit, hleads.inter hleads' hle fun q x x' hx hx' => ?_⟩
    exact Option.some.inj ((hbase.passAt q x hx).symm.trans (hbase'.passAt q x' hx'))

end Aims

/-- A path that leads anywhere aims at a name. -/
theorem aims_of_locate {follow making : Bool} {target : Target}
    (h : fs.locate follow making p = .ok target) :
    ∃ dir name, fs.Aims p dir name ∧ Ends fs.root follow dir name target := by
  unfold locate at h
  split at h
  next => cases h
  next hnul =>
    split at h
    next => cases h
    next hnil =>
      split at h
      next => cases h
      next hlen =>
        obtain hsegments | ⟨init, name, hinit⟩ := (Path.segments p).eq_nil_or_concat'
        next => exact absurd hsegments (Path.segments_ne_nil hnil)
        rw [hinit] at h
        obtain ⟨dir, hleads, hends⟩ := leads_of_walk h
        have hnul : p.contains 0 = false := by simpa using hnul
        exact ⟨dir, name, ⟨hnul, hnil, Nat.not_le.mp hlen, init, hinit, hleads⟩, hends⟩

/-- A path under which nothing is found aims at that name. -/
theorem aims_of_absent (h : fs.resolve false p = .ok (.absent dir name)) :
    fs.Aims p dir name ∧ IsEntry name ∧ fs.root.get? (dir ++ [name]) = none := by
  obtain ⟨d, n, haims, hends⟩ := aims_of_locate h
  have he : IsEntry n := hends.isEntry (by simp)
  have hlookup : fs.root.lookupAt d n = .absent dir name :=
    Except.ok.inj ((haims.resolve he).symm.trans h)
  obtain ⟨rfl, rfl⟩ := Node.eq_of_lookupAt_eq_absent hlookup
  refine ⟨haims, he, ?_⟩
  unfold Node.lookupAt at hlookup
  split at hlookup
  next => cases hlookup
  next hget => exact hget

/-- A path under which something is found that is no directory aims at its name. -/
theorem aims_of_found {place : Place} {node : Node}
    (h : fs.resolve false p = .ok (.found place node)) (hfile : node.isDir = false) :
    ∃ dir name, fs.Aims p dir name ∧ IsEntry name ∧ place = dir ++ [name] ∧
      fs.root.get? (dir ++ [name]) = some node := by
  obtain ⟨dir, name, haims, hends⟩ := aims_of_locate h
  have he : IsEntry name := hends.isEntry fun _ _ _ hdir => by
    cases hdir
    cases hfile
  obtain ⟨rfl, hget⟩ := (haims.resolve_eq_found_iff he).mp h
  exact ⟨dir, name, haims, he, rfl, hget⟩

/-! ## Writing -/

/-- No link stands at a path. -/
def Unlinked (fs : System) (p : Path) : Prop :=
  ∀ place node, fs.resolve false p = .ok (.found place node) → node.isLink = false

/-- What is written to a path is not lost: no device stands there. -/
def Keeps (fs : System) (p : Path) : Prop :=
  ∀ place traits, fs.resolve false p ≠ .ok (.found place (.device traits))

theorem replace_of_get? {place : Place} {before : Node} (after : Node)
    (hget : fs.root.get? place = some before) (hfile : before.isDir = false)
    (hleaf : after.pass? = none) :
    Within (fs.replace place before after) fs ∧
      (fs.replace place before after).root.get? place = some after := by
  unfold replace
  cases hnumber : before.traits.number with
  | none =>
    refine ⟨⟨rfl, fun q x hx => Node.passAt_of_modify hleaf hx⟩, ?_⟩
    have hmodify := Node.get?_modify_append (fun _ => after) fs.root place []
    rw [List.append_nil, hget] at hmodify
    exact hmodify
  | some k =>
    refine ⟨⟨rfl, fun q x hx => ?_⟩, ?_⟩
    · rw [Node.passAt, Node.get?_renew k hleaf] at hx
      obtain ⟨n, hn, hx⟩ := Option.bind_eq_some_iff.mp hx
      obtain ⟨m, hm, rfl⟩ := Option.map_eq_some_iff.mp hn
      rw [Node.passAt, hm]
      exact Node.pass?_of_renew hleaf hx
    · rw [Node.get?_renew k hleaf, hget, Option.map_some, Node.renew_of_not_dir k after hfile,
        if_pos hnumber]

theorem Aims.keeps_iff (h : fs.Aims p dir name) (he : IsEntry name) :
    fs.Keeps p ↔ ∀ t, fs.root.get? (dir ++ [name]) ≠ some (.device t) := by
  simp only [Keeps, ne_eq, h.resolve_eq_found_iff he]
  grind

/-- A file is made where its path aims, or what stands there gets other contents, unless it is a
device. -/
theorem write_cases {contents : Bytes} (h : fs.write p contents = .ok fs') (hlink : fs.Unlinked p) :
    ∃ dir name, fs.Aims p dir name ∧ IsEntry name ∧
      ((fs.root.get? (dir ++ [name]) = none ∧ ∃ t, fs' = fs.insert dir name (.file t contents)) ∨
        (∃ before after, fs.root.get? (dir ++ [name]) = some before ∧ before.pass? = none ∧
          (∀ t, before ≠ .device t) ∧ after.pass? = none ∧ after.contents = contents ∧
          fs' = fs.replace (dir ++ [name]) before after) ∨
        ∃ t, fs.root.get? (dir ++ [name]) = some (.device t) ∧ fs' = fs) := by
  obtain ⟨target, hlocate, h⟩ := ok_of_bind h
  obtain ⟨dir, name, haims, hends⟩ := aims_of_locate hlocate
  have he : IsEntry name := hends.isEntry (by rintro _ _ _ rfl; cases h)
  have hlink (path : Path) : fs.root.passAt (dir ++ [name]) ≠ some (.link path) := by
    intro hpass
    obtain ⟨t, hget⟩ := Node.passAt_eq_link_iff.mp hpass
    cases hlink _ _ ((haims.resolve_eq_found_iff he).mpr ⟨rfl, hget⟩)
  obtain rfl : fs.root.lookupAt dir name = target :=
    Except.ok.inj ((haims.locate he fun _ => hlink).symm.trans hlocate)
  refine ⟨dir, name, haims, he, ?_⟩
  rw [Node.lookupAt] at h
  cases hget : fs.root.get? (dir ++ [name]) with
  | none =>
    rw [hget] at h
    cases h
    exact .inl ⟨rfl, _, rfl⟩
  | some node =>
    rw [hget] at h
    cases node with
    | file t before =>
      cases h
      exact .inr (.inl ⟨_, .file _ contents, rfl, rfl, by simp, rfl, rfl, rfl⟩)
    | pipe t before =>
      cases h
      exact .inr (.inl ⟨_, .pipe _ contents, rfl, rfl, by simp, rfl, rfl, rfl⟩)
    | device t =>
      cases h
      exact .inr (.inr ⟨t, rfl, rfl⟩)
    | dir => cases h
    | link t path => exact absurd (Node.passAt_eq_link_iff.mpr ⟨t, hget⟩) (hlink path)

/-- What was written stands where its path aims, unless that was a device. -/
theorem exists_of_write {contents : Bytes} (h : fs.write p contents = .ok fs')
    (hlink : fs.Unlinked p) :
    ∃ dir name node, fs.Aims p dir name ∧ IsEntry name ∧ Within fs' fs ∧
      fs'.root.get? (dir ++ [name]) = some node ∧ node.pass? = none ∧
      (fs.Keeps p → node.contents = contents) ∧ (¬ fs.Keeps p → node.contents = []) := by
  obtain ⟨dir, name, haims, he, hcases⟩ := write_cases h hlink
  rw [haims.keeps_iff he]
  refine ⟨dir, name, ?_⟩
  obtain ⟨hnone, t, rfl⟩ | ⟨before, after, hget, hbefore, hdevice, hafter, hcontents, rfl⟩ |
    ⟨t, hget, rfl⟩ := hcases
  · exact ⟨_, haims, he, (insert_shut rfl).within, Node.get?_insert fs.now haims.isDir _, rfl,
      fun _ => rfl, by simp [hnone]⟩
  · obtain ⟨hwithin, hget'⟩ := replace_of_get? after hget (Node.isDir_of_leaf hbefore) hafter
    exact ⟨after, haims, he, hwithin, hget', hafter, fun _ => hcontents,
      by simp [hget, hdevice]⟩
  · exact ⟨_, haims, he, ⟨rfl, fun _ _ hx => hx⟩, hget, rfl, by simp [hget], fun _ => rfl⟩

/-- A file can be written where a path aims at a file or at nothing. -/
theorem Aims.write (h : fs.Aims p dir name) (he : IsEntry name)
    (hfile : ∀ node, fs.root.get? (dir ++ [name]) = some node → ∃ t b, node = .file t b)
    (contents : Bytes) : ∃ fs', fs.write p contents = .ok fs' := by
  have hlink (target : Path) : fs.root.passAt (dir ++ [name]) ≠ some (.link target) := by
    intro hpass
    obtain ⟨t, hget⟩ := Node.passAt_eq_link_iff.mp hpass
    obtain ⟨t', b, hnode⟩ := hfile _ hget
    cases hnode
  rw [System.write, writeWith, h.locate he fun _ => hlink, Node.lookupAt]
  cases hget : fs.root.get? (dir ++ [name]) with
  | none => exact ⟨_, rfl⟩
  | some node =>
    obtain ⟨t, b, rfl⟩ := hfile node hget
    exact ⟨_, rfl⟩

/-! ## Moving -/

/-- A leaf that is moved shuts the place to which it comes and opens none. -/
theorem move_shut {node : Node} (hpass : fs.root.passAt (dir ++ [name]) = none)
    (hleaf : node.pass? = none) :
    Shut (dir' ++ [name']) fs (fs.move (dir ++ [name]) node dir' name') :=
  erase_shut.trans (insert_shut hleaf) hpass

theorem get?_move {node : Node} (hdir : fs.root.passAt dir' = some .dir)
    (hpass : fs.root.passAt (dir ++ [name]) = none) :
    (fs.move (dir ++ [name]) node dir' name').root.get? (dir' ++ [name']) = some node := by
  have hkept : ¬ dir ++ [name] <+: dir' := by
    intro hq
    rw [Node.passAt_below hpass hq] at hdir
    cases hdir
  exact Node.get?_insert fs.now ((erase_shut.passAt_elsewhere hkept).trans hdir) node

theorem aims_of_rename {source target : Path} (h : fs.rename source target = .ok fs') :
    ∃ dir name, fs.Aims source dir name := by
  obtain ⟨found, hfound, -⟩ := ok_of_bind h
  obtain ⟨dir, name, haims, -⟩ := aims_of_locate hfound
  exact ⟨dir, name, haims⟩

theorem rename_cases {source target : Path} {place : Place} {node : Node}
    (hsource : fs.resolve false source = .ok (.found place node))
    (h : fs.rename source target = .ok fs') :
    (∃ d n, fs.resolve false target = .ok (.absent d n) ∧ fs' = fs.move place node d n) ∨
      ∃ other there, fs.resolve false target = .ok (.found other there) ∧ there.isDir = false ∧
        (other = place ∧ fs' = fs ∨
          fs' = fs.move place node other.dropLast (other.getLast?.getD [])) := by
  obtain ⟨found, hfound, h⟩ := ok_of_bind h
  obtain rfl : Target.found place node = found := Except.ok.inj (hsource.symm.trans hfound)
  dsimp only at h
  split at h
  next =>
    obtain ⟨_, _, h⟩ := ok_of_bind h
    cases h
  next =>
    obtain ⟨there, hthere, h⟩ := ok_of_bind h
    have hslash : target.endsInSlash = false := by
      cases hslash : target.endsInSlash with
      | false => rfl
      | true => cases there <;> simp [hslash] at h
    rw [Path.dropSlashes_of_not_endsInSlash hslash] at hthere
    cases there with
    | absent d n =>
      simp only [hslash, Bool.false_eq_true, if_false] at h
      cases h
      exact .inl ⟨d, n, hthere, rfl⟩
    | found other there =>
      simp only [hslash, Bool.false_eq_true, if_false] at h
      refine .inr ⟨other, there, hthere, ?_⟩
      split at h
      next => cases h
      next hfile =>
        refine ⟨by simpa using hfile, ?_⟩
        split at h
        next hplace =>
          cases h
          exact .inl ⟨hplace, rfl⟩
        next =>
          cases h
          exact .inr rfl

/-- A file that was moved stands where the other path aims, and shuts no other way. -/
theorem exists_of_rename {source target : Path} (h : fs.rename source target = .ok fs')
    (haims : fs.Aims source dir name) (he : IsEntry name) {node : Node}
    (hget : fs.root.get? (dir ++ [name]) = some node) (hleaf : node.pass? = none) :
    ∃ dir' name', fs.Aims target dir' name' ∧ IsEntry name' ∧ Shut (dir' ++ [name']) fs fs' ∧
      fs'.root.get? (dir' ++ [name']) = some node := by
  have hpass : fs.root.passAt (dir ++ [name]) = none := by
    rw [Node.passAt, hget, Option.bind_some, hleaf]
  have hsource : fs.resolve false source = .ok (.found (dir ++ [name]) node) :=
    (haims.resolve_eq_found_iff he).mpr ⟨rfl, hget⟩
  obtain ⟨d, n, htarget, rfl⟩ | ⟨other, there, htarget, hfile, hmoved⟩ := rename_cases hsource h
  · obtain ⟨haims', he', -⟩ := aims_of_absent htarget
    exact ⟨d, n, haims', he', move_shut hpass hleaf, get?_move haims'.isDir hpass⟩
  · obtain ⟨dir', name', haims', he', rfl, -⟩ := aims_of_found htarget hfile
    refine ⟨dir', name', haims', he', ?_⟩
    obtain ⟨hplace, rfl⟩ | rfl := hmoved
    · -- both paths aim at the same place, and the file is there already
      rw [hplace]
      exact ⟨.refl hpass, hget⟩
    · rw [List.dropLast_concat, List.getLast?_concat, Option.getD_some]
      exact ⟨move_shut hpass hleaf, get?_move haims'.isDir hpass⟩

/-! ## Ways through what is replaced -/

/-- A path does not lead through what it leads to: once that is gone, it leads to where it is
missing. -/
def Straight (fs : System) (p : Path) : Prop :=
  ∀ place node, fs.resolve false p = .ok (.found place node) →
    ∃ dir name, (fs.erase place).resolve false p = .ok (.absent dir name)

/-- A path does not need a place on its way where nothing passes. -/
theorem Aims.erase (h : fs.Aims p dir name) {d : Place} {n : Name}
    (hpass : fs.root.passAt (d ++ [n]) = none) : (fs.erase (d ++ [n])).Aims p dir name := by
  have hshut : Shut (d ++ [n]) fs fs := .refl hpass
  refine h.mono ⟨rfl, fun q x hx => ?_⟩
  exact (erase_shut.passAt_elsewhere (hshut.not_prefix_of_passAt hx)).trans hx

theorem straight_iff (h : fs.Aims p dir name) (he : IsEntry name) :
    fs.Straight p ↔ (fs.erase (dir ++ [name])).Aims p dir name := by
  constructor
  · intro hstraight
    cases hget : fs.root.get? (dir ++ [name]) with
    | none => exact h.erase (by rw [Node.passAt, hget, Option.bind_none])
    | some node =>
      obtain ⟨d, n, hresolve⟩ :=
        hstraight (dir ++ [name]) node ((h.resolve_eq_found_iff he).mpr ⟨rfl, hget⟩)
      obtain ⟨dir', name', haims, -⟩ := aims_of_locate hresolve
      obtain rfl : name = name' := h.name_eq haims
      obtain rfl : dir = dir' := h.dir_eq (haims.mono erase_shut.within) he
      exact haims
  · intro haims place node hresolve
    obtain ⟨rfl, -⟩ := (h.resolve_eq_found_iff he).mp hresolve
    exact ⟨dir, name, by rw [haims.resolve he, Node.lookupAt, get?_erase_place]⟩

/-- A path to a file does not lead through it. -/
theorem straight_of_leaf (h : ∀ place node, fs.resolve false p = .ok (.found place node) →
    node.pass? = none) : fs.Straight p := by
  intro place node hresolve
  obtain ⟨dir, name, haims, hends⟩ := aims_of_locate hresolve
  have he : IsEntry name := hends.isEntry fun _ _ _ hdir => by
    cases hdir
    cases h _ _ hresolve
  obtain ⟨-, hget⟩ := (haims.resolve_eq_found_iff he).mp hresolve
  have hgone : (fs.erase (dir ++ [name])).Aims p dir name :=
    haims.erase (by rw [Node.passAt, hget, Option.bind_some, h place node hresolve])
  exact (straight_iff haims he).mpr hgone place node hresolve

section
variable {fs₁ fs₂ fs₃ : System} (hle : Within fs₂ fs₁) (hshut : Shut (dir ++ [name]) fs₂ fs₃)
  (haims : fs₂.Aims p dir name) (he : IsEntry name)
include hle hshut haims he

/-- A straight path aims at the file that was put where it leads. -/
theorem Straight.aims (h : fs₁.Straight p) : fs₃.Aims p dir name := by
  have hgone : (fs₁.erase (dir ++ [name])).Aims p dir name :=
    (straight_iff (haims.mono hle) he).mp h
  refine haims.inter hgone hle erase_shut.within (hshut.cwd.trans hle.cwd) fun q x hx hgone => ?_
  exact (hshut.passAt_elsewhere (erase_shut.not_prefix_of_passAt hgone)).trans hx

/-- A path that aims anywhere after a file was put where it leads is straight. -/
theorem straight_of_aims (h : fs₃.Aims p dir' name') : fs₁.Straight p := by
  have haims₁ : fs₁.Aims p dir name := haims.mono hle
  have hgone : (fs₁.erase (dir ++ [name])).Aims p dir' name' := by
    refine h.mono ⟨hshut.cwd.trans hle.cwd, fun q x hx => ?_⟩
    rw [erase_shut.passAt_elsewhere (hshut.not_prefix_of_passAt hx)]
    exact hle.passAt q x (hshut.within.passAt q x hx)
  obtain rfl : name = name' := haims.name_eq h
  obtain rfl : dir = dir' := haims₁.dir_eq (hgone.mono erase_shut.within) he
  exact (straight_iff haims₁ he).mpr hgone

end

end System
end Scratchpad.Files
