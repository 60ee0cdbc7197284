import Mathlib.Data.List.Basic
import Mathlib.Data.List.Induction
import Mathlib.Data.List.Infix
import Mathlib.Data.List.TakeWhile
import Mathlib.Tactic.Common
import Scratchpad.Files.Path

/-!
# Paths as they are written

A path that is trimmed ends in a name, before which there is nothing or something up to a slash.
What trimming takes away are slashes and dots, which carry no meaning. A path with another extension
has the same parent and another name, or it has no name any more.
-/

namespace Scratchpad.Files.Path

variable {p pre parent : Path} {name stem x : Name}

/-- The parts of a path, whether it asks for a directory or not. -/
def parts (p : Path) : List Name :=
  (split p).filter (· ≠ [])

/-- A path without what carries no meaning at its end. -/
def trim (p : Path) : Path :=
  (trimReversed p.reverse).reverse

/-! ## Parts -/

theorem split_append_slash (p q : Path) : split (p ++ slash :: q) = split p ++ split q :=
  List.splitOnP_append_cons p q (by simp)

theorem split_of_not_mem (h : slash ∉ name) : split name = [name] :=
  List.splitOnP_eq_singleton fun c hc => by
    rw [beq_eq_false_iff_ne]
    rintro rfl
    exact h hc

theorem parts_append_slash (p q : Path) : parts (p ++ slash :: q) = parts p ++ parts q := by
  rw [parts, split_append_slash, List.filter_append]
  rfl

theorem parts_concat_slash (p : Path) : parts (p ++ [slash]) = parts p := by
  rw [parts_append_slash]
  exact List.append_nil _

/-- A path asks for no more than its parts, but perhaps that it be a directory. -/
theorem segments_eq (p : Path) :
    ∃ tail, segments p = parts p ++ tail ∧ ∀ part ∈ tail, part = [] := by
  unfold segments
  dsimp only
  split
  · exact ⟨[[]], rfl, by simp⟩
  · exact ⟨[], (List.append_nil _).symm, by simp⟩

theorem filter_segments (p : Path) : (segments p).filter (· ≠ []) = parts p := by
  obtain ⟨tail, htail, hempty⟩ := segments_eq p
  have hparts : (parts p).filter (· ≠ []) = parts p := by
    rw [parts, List.filter_filter]
    simp
  have hnone : tail.filter (· ≠ []) = [] := by simpa using hempty
  rw [htail, List.filter_append, hparts, hnone, List.append_nil]

theorem parts_of_not_mem (hs : slash ∉ name) (hne : name ≠ []) : parts name = [name] := by
  rw [parts, split_of_not_mem hs]
  simp [hne]

/-- What may stand before a name: nothing, or something up to a slash. -/
def Opens (pre : Path) : Prop :=
  pre = [] ∨ ∃ q, pre = q ++ [slash]

/-- A path ends in a name; a single dot is one only if nothing stands before it. -/
structure Splits (p pre : Path) (name : Name) : Prop where
  eq : p = pre ++ name
  opens : Opens pre
  ne_nil : name ≠ []
  not_mem : slash ∉ name
  single : name = [dot] → pre = []

theorem exists_concat (p : Path) :
    ∃ pre name, p = pre ++ name ∧ Opens pre ∧ slash ∉ name := by
  induction p using List.reverseRecOn with
  | nil => exact ⟨[], [], rfl, .inl rfl, List.not_mem_nil⟩
  | append_singleton p c ih =>
    obtain ⟨pre, name, rfl, hopens, hname⟩ := ih
    by_cases hc : c = slash
    · exact ⟨pre ++ name ++ [c], [], by simp, .inr ⟨pre ++ name, by rw [hc]⟩, List.not_mem_nil⟩
    · refine ⟨pre, name ++ [c], by simp, hopens, ?_⟩
      simpa [hname] using Ne.symm hc

theorem parts_concat (hopens : Opens pre) (hne : name ≠ []) (hs : slash ∉ name) :
    parts (pre ++ name) = parts pre ++ [name] := by
  obtain rfl | ⟨q, rfl⟩ := hopens
  · exact parts_of_not_mem hs hne
  · rw [List.append_assoc, List.singleton_append, parts_append_slash, parts_concat_slash,
      parts_of_not_mem hs hne]

theorem endsInSlash_concat (hne : name ≠ []) (hs : slash ∉ name) :
    endsInSlash (pre ++ name) = false := by
  have hlast : name.getLast hne ≠ slash := fun hlast => hs (hlast ▸ List.getLast_mem hne)
  simp [endsInSlash, List.getLast?_append, List.getLast?_eq_getLast_of_ne_nil hne, hlast]

theorem segments_concat (hopens : Opens pre) (hne : name ≠ []) (hs : slash ∉ name) :
    segments (pre ++ name) = parts pre ++ [name] := by
  rw [segments, endsInSlash_concat hne hs, if_neg (by simp)]
  exact parts_concat hopens hne hs

/-- A path whose last segment names an entry ends in that name. -/
theorem splits_of_segments {init : List Name} (h : segments p = init ++ [name]) (hne : name ≠ [])
    (hdot : name ≠ [dot]) : ∃ pre, Splits p pre name ∧ init = parts pre := by
  obtain ⟨pre, last, rfl, hopens, hs⟩ := exists_concat p
  by_cases hlast : last = []
  · -- the path ends in a slash, or there is nothing of it
    rw [hlast, List.append_nil] at h
    obtain rfl | ⟨q, rfl⟩ := hopens
    · simp [segments, split, endsInSlash] at h
    · have hend : endsInSlash (q ++ [slash]) = true := by simp [endsInSlash]
      rw [segments, hend, if_pos rfl] at h
      exact absurd (List.append_singleton_inj.mp h).2.symm hne
  · rw [segments_concat hopens hlast hs] at h
    obtain ⟨rfl, rfl⟩ := List.append_singleton_inj.mp h
    exact ⟨pre, ⟨rfl, hopens, hne, hs, fun h => absurd h hdot⟩, rfl⟩

theorem Splits.segments (h : Splits p pre name) : Path.segments p = parts pre ++ [name] := by
  rw [h.eq]
  exact segments_concat h.opens h.ne_nil h.not_mem

theorem Splits.endsInSlash (h : Splits p pre name) : Path.endsInSlash p = false := by
  rw [h.eq]
  exact endsInSlash_concat h.ne_nil h.not_mem

theorem Splits.isAbsolute (h : Splits p pre name) (hpre : pre ≠ []) :
    Path.isAbsolute p = Path.isAbsolute pre := by
  rw [h.eq, Path.isAbsolute, Path.isAbsolute, List.head?_append_of_ne_nil _ hpre]

theorem Splits.parts (h : Splits p pre name) : Path.parts p = Path.parts pre ++ [name] := by
  rw [h.eq]
  exact parts_concat h.opens h.ne_nil h.not_mem

theorem forall_mem_reverse_ne {c : UInt8} {l : List UInt8} (h : c ∉ l) :
    ∀ d ∈ l.reverse, decide (d ≠ c) = true := by
  intro d hd
  rw [List.mem_reverse] at hd
  rw [decide_eq_true_eq]
  rintro rfl
  exact h hd

/-! ## Trimming -/

theorem trimReversed_of_ne {c d : UInt8} {rest : List UInt8} (hc : c ≠ slash)
    (hd : ¬ (c = dot ∧ d = slash)) : trimReversed (c :: d :: rest) = c :: d :: rest := by
  rw [trimReversed, if_neg hc, if_neg (by simpa using hd)]

theorem trimReversed_idempotent (r : List UInt8) :
    trimReversed (trimReversed r) = trimReversed r := by
  induction r using trimReversed.induct with
  | case1 => rfl
  | case2 c => rfl
  | case3 d rest ih => rwa [trimReversed, if_pos rfl]
  | case4 c d rest hc hd ih => rwa [trimReversed, if_neg hc, if_pos hd]
  | case5 c d rest hc hd =>
    have hself : trimReversed (c :: d :: rest) = c :: d :: rest :=
      trimReversed_of_ne hc (by simpa using hd)
    rw [hself, hself]

theorem trimReversed_suffix (r : List UInt8) : trimReversed r <:+ r := by
  induction r using trimReversed.induct with
  | case1 => exact List.suffix_rfl
  | case2 c => exact List.suffix_rfl
  | case3 d rest ih =>
    rw [trimReversed, if_pos rfl]
    exact ih.trans (List.suffix_cons ..)
  | case4 c d rest hc hd ih =>
    rw [trimReversed, if_neg hc, if_pos hd]
    exact ih.trans (List.suffix_cons ..)
  | case5 c d rest hc hd =>
    rw [trimReversed_of_ne hc (by simpa using hd)]

/-- It does not matter how much was taken away already of what trimming takes away. -/
theorem trimReversed_drop {r : List UInt8} {k : Nat}
    (h : (trimReversed r).length + k ≤ r.length) : trimReversed (r.drop k) = trimReversed r := by
  induction r using trimReversed.induct generalizing k with
  | case1 => rw [List.drop_nil]
  | case2 c =>
    obtain rfl : k = 0 := by
      simp only [trimReversed, List.length_singleton] at h
      omega
    rfl
  | case3 d rest ih =>
    cases k with
    | zero => rfl
    | succ k =>
      rw [trimReversed, if_pos rfl] at h ⊢
      exact ih (Nat.le_of_succ_le_succ h)
  | case4 c d rest hc hd ih =>
    cases k with
    | zero => rfl
    | succ k =>
      rw [trimReversed, if_neg hc, if_pos hd] at h ⊢
      exact ih (Nat.le_of_succ_le_succ h)
  | case5 c d rest hc hd =>
    rw [trimReversed_of_ne hc (by simpa using hd)] at h
    obtain rfl : k = 0 := by omega
    rfl

theorem getLast?_trimReversed (r : List UInt8) : (trimReversed r).getLast? = r.getLast? := by
  induction r using trimReversed.induct with
  | case1 => rfl
  | case2 c => rfl
  | case3 d rest ih => rw [trimReversed, if_pos rfl, ih, List.getLast?_cons_cons]
  | case4 c d rest hc hd ih => rw [trimReversed, if_neg hc, if_pos hd, ih, List.getLast?_cons_cons]
  | case5 c d rest hc hd => rw [trimReversed_of_ne hc (by simpa using hd)]

/-- Trimming takes no parts away but dots. -/
theorem parts_trimReversed (r : List UInt8) :
    ∃ k, parts r.reverse = parts (trimReversed r).reverse ++ List.replicate k [dot] := by
  induction r using trimReversed.induct with
  | case1 => exact ⟨0, by simp [trimReversed]⟩
  | case2 c => exact ⟨0, by simp [trimReversed]⟩
  | case3 d rest ih =>
    rw [trimReversed, if_pos rfl, List.reverse_cons, parts_concat_slash]
    exact ih
  | case4 c d rest hc hd ih =>
    obtain ⟨rfl, rfl⟩ : c = dot ∧ d = slash := by simpa using hd
    obtain ⟨k, hk⟩ := ih
    refine ⟨k + 1, ?_⟩
    have hdots : parts (dot :: slash :: rest).reverse =
        parts (slash :: rest).reverse ++ [[dot]] := by
      have hslash : (slash :: rest).reverse = rest.reverse ++ [slash] := List.reverse_cons
      rw [hslash, parts_concat_slash, List.reverse_cons, hslash, List.append_assoc,
        List.singleton_append, parts_append_slash]
      rfl
    rw [trimReversed, if_neg hc, if_pos hd, hdots, hk, List.append_assoc, List.replicate_succ']
  | case5 c d rest hc hd =>
    rw [trimReversed_of_ne hc (by simpa using hd)]
    exact ⟨0, by simp⟩

theorem trim_trim (p : Path) : trim (trim p) = trim p := by
  rw [trim, trim, List.reverse_reverse, trimReversed_idempotent]

theorem trim_prefix_self (p : Path) : trim p <+: p := by
  rw [← List.reverse_suffix, trim, List.reverse_reverse]
  exact trimReversed_suffix p.reverse

theorem isAbsolute_trim (p : Path) : (trim p).isAbsolute = p.isAbsolute := by
  rw [isAbsolute, isAbsolute, trim, List.head?_reverse, getLast?_trimReversed,
    List.getLast?_reverse]

theorem parts_trim (p : Path) : ∃ k, parts p = parts (trim p) ++ List.replicate k [dot] := by
  obtain ⟨k, hk⟩ := parts_trimReversed p.reverse
  rw [List.reverse_reverse] at hk
  exact ⟨k, hk⟩

theorem trim_take {k : Nat} (h : (trim p).length + k ≤ p.length) :
    trim (p.take (p.length - k)) = trim p := by
  rw [trim, List.length_reverse] at h
  rw [trim, ← List.drop_reverse, trimReversed_drop (by rwa [List.length_reverse]), trim]

theorem trim_concat_slash (h : p ≠ []) : trim (p ++ [slash]) = trim p := by
  obtain ⟨d, rest, hrest⟩ := List.exists_cons_of_ne_nil (List.reverse_ne_nil_iff.mpr h)
  rw [trim, List.reverse_concat, hrest, trimReversed, if_pos rfl, ← hrest, trim]

theorem trim_concat_dot (p : Path) : trim (p ++ [slash] ++ [dot]) = trim (p ++ [slash]) := by
  rw [trim, List.reverse_concat, List.reverse_concat, trimReversed, if_neg (by decide),
    if_pos (by simp), ← List.reverse_concat, trim]

theorem Splits.trim_eq (h : Splits p pre name) : trim p = p := by
  obtain ⟨init, c, rfl⟩ := (List.eq_nil_or_concat' name).resolve_left h.ne_nil
  have hc : c ≠ slash := by
    rintro rfl
    exact h.not_mem (by simp)
  have hp : p.reverse = c :: (pre ++ init).reverse := by
    rw [h.eq, ← List.append_assoc, List.reverse_concat]
  suffices hself : trimReversed p.reverse = p.reverse by rw [trim, hself, List.reverse_reverse]
  rw [hp]
  cases hrest : (pre ++ init).reverse with
  | nil => rfl
  | cons d rest =>
    refine trimReversed_of_ne hc ?_
    rintro ⟨rfl, rfl⟩
    -- a slash right before the dot would leave a single dot as the name
    cases init using List.reverseRecOn with
    | nil => simp [h.single rfl] at hrest
    | append_singleton init e =>
      rw [← List.append_assoc, List.reverse_concat] at hrest
      obtain ⟨rfl, -⟩ := List.cons.inj hrest
      exact h.not_mem (by simp)

/-- A trimmed path that is neither empty nor the root ends in a name. -/
theorem exists_splits (h : trim p = p) (hne : p ≠ []) (hroot : p ≠ [slash]) :
    ∃ pre name, Splits p pre name := by
  have hlength {q : Path} {c : UInt8} (hq : trim (q ++ [c]) = trim q) : q ++ [c] ≠ p := by
    rintro rfl
    have hle : (trim q).length ≤ q.length := (trim_prefix_self q).length_le
    rw [← hq, h, List.length_append, List.length_singleton] at hle
    omega
  obtain ⟨pre, name, hp, hopens, hs⟩ := exists_concat p
  refine ⟨pre, name, hp, hopens, ?_, hs, ?_⟩
  · rintro rfl
    rw [List.append_nil] at hp
    obtain rfl | ⟨q, rfl⟩ := hopens
    · exact hne hp
    · have hq : q ≠ [] := by
        rintro rfl
        exact hroot hp
      exact hlength (trim_concat_slash hq) hp.symm
  · rintro rfl
    refine hopens.resolve_right ?_
    rintro ⟨q, rfl⟩
    exact hlength (trim_concat_dot q) hp.symm

/-! ## The last part -/

theorem trimReversed_reverse (p : Path) : trimReversed p.reverse = (trim p).reverse := by
  rw [trim, List.reverse_reverse]

/-- The name is what follows the last slash. -/
theorem Splits.around (h : Splits p pre name) :
    p.reverse.takeWhile (· ≠ slash) = name.reverse ∧
      p.reverse.dropWhile (· ≠ slash) = pre.reverse := by
  have hkept := forall_mem_reverse_ne h.not_mem
  rw [h.eq, List.reverse_append, List.takeWhile_append_of_pos hkept,
    List.dropWhile_append_of_pos hkept]
  obtain rfl | ⟨q, rfl⟩ := h.opens <;> simp

theorem Splits.lastPart? (h : Splits (trim p) pre name) :
    Path.lastPart? p = some (trim pre, name) := by
  have hnil : trim p ≠ [] := by
    rw [h.eq]
    simp [h.ne_nil]
  have hroot : (trim p).reverse ≠ [slash] := by
    intro hroot
    obtain ⟨htake, -⟩ := h.around
    rw [hroot] at htake
    exact h.ne_nil (by simpa using htake.symm)
  obtain ⟨htake, hdrop⟩ := h.around
  rw [Path.lastPart?, trimReversed_reverse]
  simp only [List.reverse_eq_nil_iff, hnil, hroot, or_self, if_false, htake, hdrop,
    List.reverse_reverse]
  rfl

theorem splits_of_lastPart? (h : lastPart? p = some (parent, name)) :
    ∃ pre, Splits (trim p) pre name ∧ parent = trim pre := by
  have hne : trim p ≠ [] ∧ trim p ≠ [slash] := by
    unfold lastPart? at h
    dsimp only at h
    split at h
    next => cases h
    next hr =>
      rw [not_or] at hr
      simpa [trim, List.reverse_eq_iff] using hr
  obtain ⟨pre, last, hsplits⟩ := exists_splits (trim_trim p) hne.1 hne.2
  rw [hsplits.lastPart?, Option.some.injEq, Prod.mk.injEq] at h
  obtain ⟨rfl, rfl⟩ := h
  exact ⟨pre, hsplits, rfl⟩

theorem Splits.fileName? (h : Splits (trim p) pre name) (hdot : name ≠ [dot])
    (hdots : name ≠ [dot, dot]) : Path.fileName? p = some name := by
  rw [Path.fileName?, h.lastPart?]
  simp [hdot, hdots]

theorem Splits.fileName?_cases (h : Splits (trim p) pre name) :
    Path.fileName? p = none ∨ Path.fileName? p = some name := by
  rw [Path.fileName?, h.lastPart?, Option.bind_eq_bind, Option.bind_some]
  dsimp only
  split
  · exact .inl rfl
  · exact .inr rfl

theorem Splits.parent? (h : Splits (trim p) pre name) : Path.parent? p = some (trim pre) := by
  rw [Path.parent?, h.lastPart?]
  rfl

theorem splits_of_fileName? (h : fileName? p = some name) : ∃ pre, Splits (trim p) pre name := by
  unfold fileName? at h
  obtain ⟨⟨parent, last⟩, hlast, h⟩ := Option.bind_eq_some_iff.mp h
  dsimp only at h
  split at h
  next => cases h
  next =>
    cases h
    obtain ⟨pre, hsplits, -⟩ := splits_of_lastPart? hlast
    exact ⟨pre, hsplits⟩

theorem splits_of_parent? (h : parent? p = some parent) :
    ∃ pre name, Splits (trim p) pre name ∧ parent = trim pre := by
  obtain ⟨⟨_, name⟩, hlast, rfl⟩ := Option.map_eq_some_iff.mp h
  obtain ⟨pre, hsplits, hparent⟩ := splits_of_lastPart? hlast
  exact ⟨pre, name, hsplits, hparent⟩

/-! ## Names in directories -/

theorem exists_of_endsInSlash {p : Path} (h : p.endsInSlash = true) : ∃ q, p = q ++ [slash] := by
  cases p using List.reverseRecOn with
  | nil => cases h
  | append_singleton q c =>
    obtain rfl : c = slash := by simpa [endsInSlash] using h
    exact ⟨q, rfl⟩

/-- Between the path of a directory and the name of an entry there is a slash in any case. -/
theorem exists_of_join {dir : Path} (h : dir ≠ []) (name : Name) :
    ∃ sep, dir.join name = dir ++ sep ++ name ∧ (sep = [] ∨ sep = [slash]) ∧
      Opens (dir ++ sep) := by
  unfold join
  split
  next hdir =>
    obtain ⟨q, hq⟩ := exists_of_endsInSlash (hdir.resolve_left h)
    exact ⟨[], by rw [List.append_nil], .inl rfl, .inr ⟨q, by rw [List.append_nil, hq]⟩⟩
  next => exact ⟨[slash], by simp, .inr rfl, .inr ⟨dir, rfl⟩⟩

theorem endsInSlash_join_nil {dir : Path} (h : dir ≠ []) : endsInSlash (dir.join []) = true := by
  unfold join
  split
  next hdir => rw [List.append_nil, hdir.resolve_left h]
  next => simp [endsInSlash]

/-! ## Extensions -/

theorem dropWhile_ne_dot (stem : Name) (h : dot ∉ x) :
    (stem ++ dot :: x).reverse.dropWhile (· ≠ dot) = dot :: stem.reverse := by
  rw [List.reverse_append, List.reverse_cons, List.append_assoc,
    List.dropWhile_append_of_pos (forall_mem_reverse_ne h)]
  simp

theorem stemOf_concat (hne : stem ≠ []) (h : dot ∉ x) : stemOf (stem ++ dot :: x) = stem := by
  rw [stemOf]
  simp only [dropWhile_ne_dot stem h]
  simp [hne]

theorem stemOf_of_not_mem (h : dot ∉ name) : stemOf name = name := by
  have hbefore : name.reverse.dropWhile (· ≠ dot) = [] :=
    List.dropWhile_eq_nil_iff.mpr (forall_mem_reverse_ne h)
  rw [stemOf]
  simp only [hbefore]
  simp

theorem stemOf_hidden (h : dot ∉ x) : stemOf (dot :: x) = dot :: x := by
  have hbefore := dropWhile_ne_dot [] h
  rw [List.nil_append] at hbefore
  rw [stemOf]
  simp only [hbefore]
  simp

/-- A name that has an extension ends in it, with a dot before it. -/
theorem eq_of_extensionOf? (h : extensionOf? name = some x) :
    ∃ stem, stem ≠ [] ∧ name = stem ++ dot :: x ∧ dot ∉ x := by
  unfold extensionOf? at h
  split at h
  next => cases h
  next hstem =>
    have hdot : dot ∈ name.reverse := by
      by_contra hdot
      exact hstem (stemOf_of_not_mem (by simpa using hdot))
    obtain ⟨after, before, hname, hafter⟩ := List.eq_append_cons_of_mem hdot
    obtain rfl : name = before.reverse ++ dot :: after.reverse := by
      rw [← List.reverse_reverse name, hname]
      simp
    have hafter : dot ∉ after.reverse := by simpa using hafter
    have hne : before.reverse ≠ [] := by
      intro hnil
      rw [hnil] at hstem
      exact hstem (stemOf_hidden hafter)
    rw [stemOf_concat hne hafter, Option.some.injEq] at h
    obtain rfl : after.reverse = x := by
      rw [← h]
      simp [List.drop_append]
    exact ⟨before.reverse, hne, rfl, hafter⟩

theorem stemOf_of_extensionOf? (h : extensionOf? name = none) : stemOf name = name := by
  unfold extensionOf? at h
  split at h
  next hstem => exact hstem
  next => cases h

theorem stemOf_prefix_self (name : Name) : stemOf name <+: name := by
  cases h : extensionOf? name with
  | none => rw [stemOf_of_extensionOf? h]
  | some x =>
    obtain ⟨stem, hne, rfl, hdot⟩ := eq_of_extensionOf? h
    rw [stemOf_concat hne hdot]
    exact List.prefix_append ..

/-- No name is its stem with an extension that holds a dot itself. -/
theorem stemOf_append_ne (name : Name) (h : dot ∈ x) : stemOf name ++ dot :: x ≠ name := by
  cases hx : extensionOf? name with
  | none =>
    rw [stemOf_of_extensionOf? hx]
    simp
  | some old =>
    obtain ⟨stem, hne, rfl, hdot⟩ := eq_of_extensionOf? hx
    rw [stemOf_concat hne hdot]
    intro heq
    obtain ⟨-, rfl⟩ := List.cons.inj (List.append_cancel_left heq)
    exact hdot h

/-- What is left of a name without its extension: all of it if there is no dot but perhaps in front,
and else what stands before the last dot. -/
def IsStem (name stem : Name) : Prop :=
  stem = name ∧ dot ∉ name.tail ∨ ∃ x, name = stem ++ dot :: x ∧ stem ≠ [] ∧ dot ∉ x

theorem IsStem.stemOf_eq (h : IsStem name stem) : stemOf name = stem := by
  obtain ⟨rfl, htail⟩ | ⟨x, rfl, hne, hdot⟩ := h
  · cases stem with
    | nil => rfl
    | cons c rest =>
      rw [List.tail_cons] at htail
      by_cases hc : c = dot
      · rw [hc, stemOf_hidden htail]
      · exact stemOf_of_not_mem (List.not_mem_cons_of_ne_of_not_mem (Ne.symm hc) htail)
  · exact stemOf_concat hne hdot

theorem isStem_stemOf (name : Name) : IsStem name (stemOf name) := by
  cases h : extensionOf? name with
  | some x =>
    obtain ⟨stem, hne, rfl, hdot⟩ := eq_of_extensionOf? h
    rw [stemOf_concat hne hdot]
    exact .inr ⟨x, rfl, hne, hdot⟩
  | none =>
    have hstem := stemOf_of_extensionOf? h
    refine .inl ⟨hstem, fun hdot => ?_⟩
    cases name with
    | nil => cases hdot
    | cons c rest =>
      -- an extension would stand behind the last dot
      have hmem : dot ∈ rest.reverse := List.mem_reverse.mpr hdot
      obtain ⟨after, before, hrest, hafter⟩ := List.eq_append_cons_of_mem hmem
      have hname : c :: rest = (c :: before.reverse) ++ dot :: after.reverse := by
        rw [← List.reverse_reverse rest, hrest]
        simp
      rw [hname, stemOf_concat (List.cons_ne_nil _ _) (by simpa using hafter)] at hstem
      simp at hstem

theorem stemOf_eq_iff : stemOf name = stem ↔ IsStem name stem :=
  ⟨fun h => h ▸ isStem_stemOf name, IsStem.stemOf_eq⟩

theorem IsStem.ne_nil (h : IsStem name stem) (hname : name ≠ []) : stem ≠ [] := by
  obtain ⟨rfl, -⟩ | ⟨_, _, hne, _⟩ := h
  · exact hname
  · exact hne

theorem setExtension_of_splits (h : Splits (trim p) pre name) (hname : fileName? p = some name)
    (x : Name) : setExtension p x = pre ++ (stemOf name ++ dot :: x) := by
  obtain ⟨-, hdrop⟩ := h.around
  rw [setExtension, h.lastPart?, hname]
  simp only [trimReversed_reverse, hdrop, List.reverse_reverse, List.append_assoc]

theorem setExtension_of_not_fileName? (h : fileName? p = none) (x : Name) :
    setExtension p x = p := by
  rw [setExtension, h]
  cases lastPart? p <;> rfl

theorem fileName?_congr {q : Path} (h : trim p = trim q) : fileName? p = fileName? q := by
  rw [fileName?, fileName?, lastPart?, lastPart?, trimReversed_reverse, trimReversed_reverse, h]

/-- A name may lose some of its extension. -/
theorem Splits.cut {old : Name} (h : Splits p pre (stem ++ dot :: old)) (hne : stem ≠ [])
    (k : Nat) :
    Splits (pre ++ (stem ++ dot :: old.take k)) pre (stem ++ dot :: old.take k) := by
  refine ⟨rfl, h.opens, by simp, fun hs => h.not_mem ?_, fun hsingle => ?_⟩
  · simp only [List.mem_append, List.mem_cons] at hs ⊢
    exact hs.imp_right (Or.imp_right List.mem_of_mem_take)
  · cases stem with
    | nil => exact absurd rfl hne
    | cons c stem => simp at hsingle

/-- Where less than an extension is trimmed, some of the extension is cut off with it. -/
theorem take_of_splits {old : Name} (h : Splits (trim p) pre (stem ++ dot :: old))
    (hlen : ¬ (trim p).length + old.length ≤ p.length) :
    ∃ k, p.take (p.length - old.length) = pre ++ (stem ++ dot :: old.take k) := by
  obtain ⟨rest, hrest⟩ := trim_prefix_self p
  have hp : p = pre ++ (stem ++ dot :: old.take rest.length) ++ (old.drop rest.length ++ rest) := by
    rw [← hrest, h.eq]
    conv_lhs => rw [← List.take_append_drop rest.length old]
    simp only [List.append_assoc, List.cons_append]
  have hcount : p.length - old.length =
      (pre ++ (stem ++ dot :: old.take rest.length)).length := by
    have hlength := congrArg List.length hp
    have htrimmed := congrArg List.length hrest
    simp only [List.length_append, List.length_cons, List.length_take, List.length_drop]
      at hlength htrimmed ⊢
    omega
  refine ⟨rest.length, ?_⟩
  rw [hcount]
  conv_lhs => rw [hp]
  exact List.take_left

/-- The same path with another extension: another name at the same place, or no name at all. -/
theorem withExtension_cases (h : Splits (trim p) pre name) (hname : fileName? p = some name)
    (x : Name) : fileName? (p.withExtension x) = none ∨
      p.withExtension x = pre ++ (stemOf name ++ dot :: x) := by
  cases hx : extensionOf? name with
  | none =>
    rw [withExtension, hname, Option.bind_some, hx]
    exact .inr (setExtension_of_splits h hname x)
  | some old =>
    rw [withExtension, hname, Option.bind_some, hx]
    dsimp only
    obtain ⟨stem, hne, rfl, hdot⟩ := eq_of_extensionOf? hx
    by_cases hlen : (trim p).length + old.length ≤ p.length
    · -- what is cut off would be trimmed anyway
      have htrim := trim_take hlen
      rw [← htrim] at h
      exact .inr (setExtension_of_splits h ((fileName?_congr htrim).trans hname) x)
    · obtain ⟨k, hcut⟩ := take_of_splits h hlen
      have hsplits := h.cut hne k
      have htrimmed := hsplits.trim_eq.symm ▸ hsplits
      rw [hcut]
      obtain hfile | hfile := htrimmed.fileName?_cases
      · rw [setExtension_of_not_fileName? hfile]
        exact .inl hfile
      · rw [setExtension_of_splits htrimmed hfile, stemOf_concat hne hdot,
          stemOf_concat hne fun hmem => hdot (List.mem_of_mem_take hmem)]
        exact .inr rfl

/-- If a path has a name with another extension, then it has the same parent; the name is another
one if the extension holds a dot itself. -/
theorem withExtension_spec (hname : fileName? p = some name) (hdot : dot ∈ x) (hslash : slash ∉ x) :
    fileName? (p.withExtension x) = none ∨
      parent? (p.withExtension x) = parent? p ∧
        ∃ other, fileName? (p.withExtension x) = some other ∧ other ≠ name := by
  obtain ⟨pre, hsplits⟩ := splits_of_fileName? hname
  obtain hnone | hext := withExtension_cases hsplits hname x
  · exact .inl hnone
  have hother : Splits (p.withExtension x) pre (stemOf name ++ dot :: x) := by
    refine ⟨hext, hsplits.opens, by simp, ?_, fun hsingle => ?_⟩
    · have hstem : slash ∉ stemOf name :=
        fun hs => hsplits.not_mem ((stemOf_prefix_self name).subset hs)
      have hne : slash ≠ dot := by decide
      simp [hstem, hslash, hne]
    · -- there is more than one dot in the name
      have hcount := congrArg (List.count dot) hsingle
      have hpos : 0 < x.count dot := List.count_pos_iff.mpr hdot
      simp only [List.count_append, List.count_cons_self, List.count_nil] at hcount
      omega
  have htrimmed := hother.trim_eq.symm ▸ hother
  refine htrimmed.fileName?_cases.imp_right fun hfile => ⟨?_, _, hfile, stemOf_append_ne name hdot⟩
  rw [htrimmed.parent?, hsplits.parent?]

/-! ## Parents -/

theorem mem_parts_of_mem_trim {part : Name} (h : part ∈ parts (trim p)) : part ∈ parts p := by
  obtain ⟨k, hk⟩ := parts_trim p
  rw [hk]
  exact List.mem_append_left _ h

theorem mem_parts_of_parent? (h : parent? p = some parent) {part : Name}
    (hpart : part ∈ parts parent) : part ∈ parts p := by
  obtain ⟨pre, name, hsplits, rfl⟩ := splits_of_parent? h
  refine mem_parts_of_mem_trim ?_
  rw [hsplits.parts]
  exact List.mem_append_left _ (mem_parts_of_mem_trim hpart)

theorem trim_of_parent? (h : parent? p = some parent) : trim parent = parent := by
  obtain ⟨pre, name, -, rfl⟩ := splits_of_parent? h
  exact trim_trim pre

/-- A trimmed path below another one ends in a name that is no single dot. -/
theorem splits_of_trim (htrim : trim p = p) (h : parent? p = some parent) (hne : parent ≠ []) :
    ∃ pre name, Splits p pre name ∧ name ≠ [dot] := by
  obtain ⟨pre, name, hsplits, rfl⟩ := splits_of_parent? h
  rw [htrim] at hsplits
  refine ⟨pre, name, hsplits, fun hdot => hne ?_⟩
  rw [hsplits.single hdot]
  rfl

end Scratchpad.Files.Path
