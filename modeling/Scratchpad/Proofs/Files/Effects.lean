import Scratchpad.Proofs.Files.Directories

/-!
# What writing and moving leave alone

A file that has one name is written in one place, and moving it changes two. Everything else stays
as it was. A path is occupied if something other than a directory stands where it aims; only such a
path can be read, and a file can always be moved there. What is written to a file of several names
is written under all of them, and every occupied path stays occupied.
-/

namespace Scratchpad.Files.System

open Files.Path (parts)

variable {fs fs' : System} {p : Path} {place dir dir' : Place} {name name' : Name} {node : Node}

/-! ## Writing -/

/-- What stands at a path stands nowhere else. -/
def Unshared (fs : System) (p : Path) : Prop :=
  ∀ place node, fs.resolve false p = .ok (.found place node) → node.isDir = false →
    node.traits.number = none

theorem alike_of_replace {before after : Node} (hget : fs.root.get? place = some before)
    (hbefore : before.pass? = none) (hafter : after.pass? = none)
    (hnumber : before.traits.number = none) :
    AlikeBut [place] fs (fs.replace place before after) where
  cwd := rfl
  bareAt q hq := by
    rw [replace, hnumber]
    exact Node.bareAt_replace_ne hget hbefore hafter (by simpa using hq)

/-- Writing a file that has no other name changes what stands where its path aims. -/
theorem alike_of_write {contents : Bytes} (h : fs.write p contents = .ok fs')
    (hlink : fs.Unlinked p) (hone : fs.Unshared p) :
    ∃ dir name node, fs.Aims p dir name ∧ IsEntry name ∧ fs.root.passAt (dir ++ [name]) = none ∧
      fs'.root.get? (dir ++ [name]) = some node ∧ node.pass? = none ∧
      AlikeBut [dir ++ [name]] fs fs' := by
  obtain ⟨dir, name, haims, he, hcases⟩ := write_cases h hlink
  refine ⟨dir, name, ?_⟩
  obtain ⟨hnone, t, rfl⟩ | ⟨before, after, hget, hbefore, -, hafter, -, rfl⟩ | ⟨t, hget, rfl⟩ :=
    hcases
  · have hpass : fs.root.passAt (dir ++ [name]) = none := by
      rw [Node.passAt, hnone, Option.bind_none]
    exact ⟨_, haims, he, hpass, Node.get?_insert fs.now haims.isDir _, rfl,
      alike_of_insert haims.isDir (by simp [hpass]) fun _ _ => rfl⟩
  · have hpass : fs.root.passAt (dir ++ [name]) = none := by
      rw [Node.passAt, hget, Option.bind_some, hbefore]
    have hfile : before.isDir = false := Node.isDir_of_leaf hbefore
    have hnumber := hone _ _ ((haims.resolve_eq_found_iff he).mpr ⟨rfl, hget⟩) hfile
    obtain ⟨-, hget'⟩ := replace_of_get? after hget hfile hafter
    exact ⟨after, haims, he, hpass, hget', hafter, alike_of_replace hget hbefore hafter hnumber⟩
  · have hpass : fs'.root.passAt (dir ++ [name]) = none := by
      rw [Node.passAt, hget, Option.bind_some]
      rfl
    exact ⟨_, haims, he, hpass, hget, rfl, .refl _ _⟩

/-! ## Moving -/

/-- A leaf that is moved changes two places, and is gone from the first unless they are the same. -/
theorem alike_of_move (hpass : fs.root.passAt (dir ++ [name]) = none)
    (hdir : fs.root.passAt dir' = some .dir) (hthere : fs.root.passAt (dir' ++ [name']) ≠ some .dir)
    (hleaf : node.pass? = none) :
    AlikeBut [dir ++ [name], dir' ++ [name']] fs (fs.move (dir ++ [name]) node dir' name') ∧
      (dir ++ [name] ≠ dir' ++ [name'] →
        (fs.move (dir ++ [name]) node dir' name').root.get? (dir ++ [name]) = none) := by
  have herase : AlikeBut [dir ++ [name]] fs (fs.erase (dir ++ [name])) :=
    alike_of_erase (by simp [hpass])
  have hdir' : (fs.erase (dir ++ [name])).root.passAt dir' = some .dir := by
    rw [herase.passAt, hdir]
    rw [List.mem_singleton]
    rintro rfl
    rw [hpass] at hdir
    cases hdir
  have hthere' : (fs.erase (dir ++ [name])).root.passAt (dir' ++ [name']) ≠ some .dir := by
    by_cases hplace : dir' ++ [name'] = dir ++ [name]
    · rw [hplace, Node.passAt, get?_erase_place]
      simp
    · rwa [herase.passAt (by simpa using hplace)]
  have hinsert : AlikeBut [dir' ++ [name']] (fs.erase (dir ++ [name]))
      (fs.move (dir ++ [name]) node dir' name') :=
    alike_of_insert hdir' hthere' fun key rest => Node.get?_cons_of_leaf hleaf key rest
  refine ⟨herase.trans hinsert, fun hne => ?_⟩
  rw [← Node.bareAt_eq_none_iff, hinsert.bareAt _ (by simpa using hne), Node.bareAt_eq_none_iff]
  exact get?_erase_place

/-- A leaf that was moved from one path to another stands where that aims, and nowhere else. -/
theorem alike_of_rename {source target : Path} (h : fs.rename source target = .ok fs')
    (haims : fs.Aims source dir name) (he : IsEntry name)
    (hget : fs.root.get? (dir ++ [name]) = some node) (hleaf : node.pass? = none) :
    ∃ dir' name', fs.Aims target dir' name' ∧ IsEntry name' ∧
      AlikeBut [dir ++ [name], dir' ++ [name']] fs fs' ∧
      (dir ++ [name] ≠ dir' ++ [name'] → fs'.root.get? (dir ++ [name]) = none) := by
  have hpass : fs.root.passAt (dir ++ [name]) = none := by
    rw [Node.passAt, hget, Option.bind_some, hleaf]
  have hsource : fs.resolve false source = .ok (.found (dir ++ [name]) node) :=
    (haims.resolve_eq_found_iff he).mpr ⟨rfl, hget⟩
  obtain ⟨d, n, htarget, rfl⟩ | ⟨other, there, htarget, hfile, hmoved⟩ := rename_cases hsource h
  · obtain ⟨haims', he', hnone⟩ := aims_of_absent htarget
    exact ⟨d, n, haims', he', alike_of_move hpass haims'.isDir (by simp [Node.passAt, hnone]) hleaf⟩
  · obtain ⟨dir', name', haims', he', rfl, hthere⟩ := aims_of_found htarget hfile
    refine ⟨dir', name', haims', he', ?_⟩
    obtain ⟨hplace, rfl⟩ | rfl := hmoved
    · exact ⟨.refl _ _, fun hne => absurd hplace.symm hne⟩
    · rw [List.dropLast_concat, List.getLast?_concat, Option.getD_some]
      refine alike_of_move hpass haims'.isDir ?_ hleaf
      rw [Node.passAt, hthere, Option.bind_some]
      cases there <;> simp [Node.pass?] at hfile ⊢
      cases hfile

/-! ## Occupied paths -/

/-- A path names the place at which it aims, whether something stands there or not. -/
def Denotes (fs : System) (p : Path) (place : Place) : Prop :=
  ∃ dir name, fs.Aims p dir name ∧ IsEntry name ∧ place = dir ++ [name]

/-- What is read at a path is what the leaf holds at which it aims. -/
theorem Aims.read (h : fs.Aims p dir name) (he : IsEntry name)
    (hget : fs.root.get? (dir ++ [name]) = some node) (hleaf : node.pass? = none) :
    fs.read p = .ok node.contents := by
  have hlink (target : Path) : fs.root.passAt (dir ++ [name]) ≠ some (.link target) := by
    simp [Node.passAt, hget, hleaf]
  have hresolve : fs.resolve true p = .ok (.found (dir ++ [name]) node) := by
    rw [System.resolve, h.locate he fun _ => hlink, Node.lookupAt, hget]
  rw [System.read, node?, hresolve]
  cases node with
  | dir => cases hleaf
  | _ => rfl

/-- Something other than a directory stands where a path aims. -/
def Occupied (fs : System) (p : Path) : Prop :=
  ∃ dir name node, fs.Aims p dir name ∧ IsEntry name ∧
    fs.root.get? (dir ++ [name]) = some node ∧ node.isDir = false

theorem occupied_of_read {contents : Bytes} (h : fs.read p = .ok contents) : fs.Occupied p := by
  obtain ⟨node, hnode, h⟩ := ok_of_bind h
  obtain ⟨target, hresolve, hnode⟩ := ok_of_bind hnode
  obtain ⟨dir, name, haims, hends⟩ := aims_of_locate hresolve
  cases target with
  | absent => cases hnode
  | found place found =>
    cases hnode
    have hfile : node.isDir = false := by
      cases node <;> first | rfl | cases h
    generalize htarget : Target.found place node = target at hends
    cases hends with
    | entry he =>
      obtain ⟨-, hget⟩ := Node.lookupAt_eq_found_iff.mp htarget.symm
      exact ⟨dir, name, node, haims, he, hget, hfile⟩
    | onward he _ hlink =>
      obtain ⟨t, hget⟩ := Node.passAt_eq_link_iff.mp hlink
      exact ⟨dir, name, _, haims, he, hget, rfl⟩
    | dir =>
      cases htarget
      cases hfile

theorem read_of_not_occupied (h : ¬ fs.Occupied p) : (fs.read p).toOption = none := by
  cases hread : fs.read p with
  | error e => rfl
  | ok contents => exact absurd (occupied_of_read hread) h

/-! ## What is retained -/

/-- All ways stay, and where there was a file or the like there still is one. -/
structure Retains (fs fs' : System) : Prop where
  within : Within fs fs'
  file : ∀ q n, fs.root.get? q = some n → n.isDir = false →
    ∃ n', fs'.root.get? q = some n' ∧ n'.isDir = false

theorem Occupied.mono (h : fs.Occupied p) (hretains : Retains fs fs') : fs'.Occupied p := by
  obtain ⟨dir, name, node, haims, he, hget, hfile⟩ := h
  obtain ⟨node', hget', hfile'⟩ := hretains.file _ _ hget hfile
  exact ⟨dir, name, node', haims.mono hretains.within, he, hget', hfile'⟩

theorem AlikeBut.retains (h : AlikeBut [place] fs fs') (hpass : fs.root.passAt place = none)
    (hget : fs'.root.get? place = some node) (hleaf : node.pass? = none) : Retains fs fs' where
  within := h.within (by simpa using hpass)
  file q n hn hfile := by
    by_cases hq : q = place
    · exact ⟨node, hq ▸ hget, Node.isDir_of_leaf hleaf⟩
    · obtain ⟨n', hn', hbare⟩ := Node.exists_of_bareAt_eq (h.bareAt q (by simpa using hq)) hn
      exact ⟨n', hn', by rw [Node.eq_of_bare hbare hfile, hfile]⟩

theorem Made.retains {q : Path} (h : Made q fs fs') : Retains fs fs' where
  within := ⟨h.cwd.symm, fun _ _ hx => h.kept.passAt hx⟩
  file q n hn hfile := by
    obtain ⟨n', hn', hbare⟩ := h.kept.exists hn
    exact ⟨n', hn', by rw [Node.eq_of_bare hbare hfile, hfile]⟩

/-- A number stands for one file. -/
def Coherent (fs : System) : Prop :=
  ∀ q q' n n', fs.root.get? q = some n → fs.root.get? q' = some n' → n.isDir = false →
    n'.isDir = false → n.traits.number ≠ none → n'.traits.number = n.traits.number → n' = n

theorem coherent_of_numbers (h : fs.root.numbers = []) : fs.Coherent := by
  intro q q' n n' hn _ hfile _ hnumber _
  obtain ⟨k, hk⟩ := Option.ne_none_iff_exists'.mp hnumber
  have hmem : k ∈ fs.root.numbers := Node.mem_numbers hn hfile hk
  rw [h] at hmem
  cases hmem

theorem Coherent.of_files (h : fs.Coherent)
    (hfiles : ∀ q n, fs'.root.get? q = some n → n.isDir = false → fs.root.get? q = some n) :
    fs'.Coherent := by
  intro q q' n n' hn hn' hfile hfile'
  exact h q q' n n' (hfiles q n hn hfile) (hfiles q' n' hn' hfile') hfile hfile'

theorem Coherent.made {q : Path} (h : fs.Coherent) (hmade : Made q fs fs') : fs'.Coherent :=
  h.of_files fun _ _ => hmade.get?_of_file

theorem Coherent.makeDir (h : fs.Coherent) (hmake : fs.makeDir p = .ok fs') : fs'.Coherent := by
  obtain ⟨target, hresolve, hmake⟩ := ok_of_bind hmake
  cases target with
  | found => cases hmake
  | absent dir name =>
    obtain ⟨haims, -, hnone⟩ := aims_of_absent hresolve
    obtain ⟨t, rfl⟩ : ∃ t, fs.insert dir name (.dir t []) = fs' := ⟨_, Except.ok.inj hmake⟩
    have halike : AlikeBut [dir ++ [name]] fs (fs.insert dir name (.dir t [])) :=
      alike_of_insert haims.isDir (by simp [Node.passAt, hnone]) fun _ _ => rfl
    refine h.of_files fun q n hn hfile => ?_
    by_cases hq : q = dir ++ [name]
    · subst hq
      cases hn.symm.trans (Node.get?_insert fs.now haims.isDir _)
      cases hfile
    · obtain ⟨n', hn', hbare⟩ :=
        Node.exists_of_bareAt_eq (halike.bareAt q (by simpa using hq)).symm hn
      rw [hn', Node.eq_of_bare hbare hfile]

theorem Coherent.makeDirs (h : fs.Coherent) (p : Path) : (fs.makeDirs p).1.Coherent :=
  makeDirsWithin_keeps (fun _ _ _ hfs hmake => hfs.makeDir hmake) _ h

theorem retains_of_replace {before after : Node} (hcoherent : fs.Coherent)
    (hget : fs.root.get? place = some before) (hbefore : before.pass? = none)
    (hafter : after.pass? = none) : Retains fs (fs.replace place before after) := by
  have hfile : before.isDir = false := Node.isDir_of_leaf hbefore
  cases hnumber : before.traits.number with
  | none =>
    obtain ⟨-, hget'⟩ := replace_of_get? after hget hfile hafter
    have hpass : fs.root.passAt place = none := by
      rw [Node.passAt, hget, Option.bind_some, hbefore]
    exact (alike_of_replace hget hbefore hafter hnumber).retains hpass hget' hafter
  | some k =>
    have hget' (q : Place) : (fs.replace place before after).root.get? q =
        (fs.root.get? q).map (Node.renew k after) := by
      simp only [System.replace, hnumber]
      exact Node.get?_renew k hafter fs.root q
    refine ⟨⟨rfl, fun q x hx => ?_⟩, fun q n hn hfile => ?_⟩
    · obtain ⟨n, hn, hx⟩ := Option.bind_eq_some_iff.mp hx
      rw [Node.passAt, hget', hn, Option.map_some, Option.bind_some]
      cases hdir : n.isDir with
      | true =>
        cases n with
        | dir t entries => exact hx
        | _ => cases hdir
      | false =>
        rw [Node.renew_of_not_dir k after hdir]
        split
        next hk =>
          -- whatever has the number is the file itself, which lets nothing pass
          obtain rfl : n = before :=
            hcoherent place q before n hget hn hfile hdir (by simp [hnumber]) (hk.trans hnumber.symm)
          rw [hbefore] at hx
          cases hx
        next => exact hx
    · exact ⟨_, by rw [hget', hn, Option.map_some], Node.isDir_of_renew hafter hfile⟩

/-- Writing a file retains all ways and files, under however many names the file stands. -/
theorem retains_of_write {contents : Bytes} (h : fs.write p contents = .ok fs')
    (hlink : fs.Unlinked p) (hcoherent : fs.Coherent) : Retains fs fs' := by
  obtain ⟨dir, name, haims, -, hcases⟩ := write_cases h hlink
  obtain ⟨hnone, t, rfl⟩ | ⟨before, after, hget, hbefore, -, hafter, -, rfl⟩ | ⟨t, hget, rfl⟩ :=
    hcases
  · have hpass : fs.root.passAt (dir ++ [name]) = none := by
      rw [Node.passAt, hnone, Option.bind_none]
    exact (alike_of_insert haims.isDir (by simp [hpass]) fun _ _ => rfl).retains hpass
      (Node.get?_insert fs.now haims.isDir _) rfl
  · exact retains_of_replace hcoherent hget hbefore hafter
  · exact ⟨⟨rfl, fun _ _ hx => hx⟩, fun _ n hn hfile => ⟨n, hn, hfile⟩⟩

/-! ## Moving to a path -/

/-- A file can be moved to where a path aims, unless there is a directory. -/
theorem Aims.rename {source target : Path} (h : fs.Aims target dir name) (he : IsEntry name)
    (hdir : fs.root.passAt (dir ++ [name]) ≠ some .dir)
    (hsource : fs.resolve false source = .ok (.found place node)) :
    ∃ fs', fs.rename source target = .ok fs' := by
  obtain ⟨init, hinit, -⟩ := h.leads
  obtain ⟨pre, hsplits, -⟩ := Path.splits_of_segments hinit he.ne_nil he.ne_dot
  have hdots : Path.endsInDots target = false := by
    have hlast : (Path.parts target).getLast? = some name := by
      rw [hsplits.parts, List.getLast?_concat]
    rw [Path.parts] at hlast
    rw [Path.endsInDots, hlast]
    simp [he.ne_dot, he.ne_dots]
  have hslash := hsplits.endsInSlash
  rw [System.rename, hsource]
  simp only [bind, Except.bind, hdots, hslash, Path.dropSlashes_of_not_endsInSlash hslash,
    h.resolve he, Bool.false_eq_true, if_false, Node.lookupAt]
  cases hget : fs.root.get? (dir ++ [name]) with
  | none => exact ⟨_, rfl⟩
  | some there =>
    have hfile : there.isDir = false := by
      cases there with
      | dir t entries => exact absurd (Node.passAt_eq_dir_iff.mpr ⟨t, entries, hget⟩) hdir
      | _ => rfl
    simp only [hfile, Bool.false_eq_true, if_false]
    split
    · exact ⟨_, rfl⟩
    · exact ⟨_, rfl⟩

/-- To an occupied path a file can be moved. -/
theorem rename_of_occupied {source target : Path}
    (hsource : fs.resolve false source = .ok (.found place node)) (h : fs.Occupied target) :
    ∃ fs', fs.rename source target = .ok fs' := by
  obtain ⟨dir, name, there, haims, he, hget, hfile⟩ := h
  refine haims.rename he (fun hdir => ?_) hsource
  obtain ⟨t, entries, hget'⟩ := Node.passAt_eq_dir_iff.mp hdir
  cases hget.symm.trans hget'
  cases hfile

end Scratchpad.Files.System
