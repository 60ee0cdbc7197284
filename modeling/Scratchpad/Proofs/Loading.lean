import Mathlib.Data.List.Induction
import Mathlib.Data.List.TakeWhile
import Scratchpad.Proofs.Pad

/-!
# How the catalog is filled

What becomes of the catalog is read off the messages alone: the first mount starts the one load, and
the first response after that mount settles it. Every other mount or response leaves the whole pad
as it was. The entries are those of the settling response from then on, and the text that it
installs is the only one that a response ever installs.
-/

namespace Scratchpad

/-- The ways in which the phase of a catalog moves. -/
inductive Phase.Next : Phase → Phase → Prop
  | mount : Next .unmounted .loading
  | load : Next .loading .loaded
  | fail : Next .loading .failed

/-! ## Histories -/

namespace Loading

/-- The response that settles the load: the first one after the first mount. -/
def settling? (ms : List Message) : Option (Outcome (List Entry)) :=
  (ms.dropWhile (!·.isMount)).findSome? Message.load?

/-- The catalog was mounted and no response has come since. -/
def Awaited (ms : List Message) : Prop :=
  ms.any Message.isMount = true ∧ settling? ms = none

/-- The entries of the settling response, if it has any to give. -/
def accepted? (ms : List Message) : Option (List Entry) :=
  (settling? ms).bind Except.toOption

def phaseAfter (ms : List Message) : Phase :=
  match settling? ms with
  | some (.ok _) => .loaded
  | some (.error _) => .failed
  | none => if ms.any Message.isMount then .loading else .unmounted

variable (ms : List Message) (m : Message)

theorem dropWhile_eq_nil_iff :
    ms.dropWhile (!·.isMount) = [] ↔ ms.any Message.isMount = false := by
  simp [List.dropWhile_eq_nil_iff]

theorem load?_eq_none_of_isMount (h : m.isMount = true) : m.load? = none := by
  cases m <;> cases h; rfl

theorem settling?_snoc : settling? (ms ++ [m]) =
    (settling? ms).or (if ms.any Message.isMount then m.load? else none) := by
  unfold settling?
  rw [List.dropWhile_append]
  cases h : ms.any Message.isMount with
  | false =>
    rw [(dropWhile_eq_nil_iff ms).mpr h]
    cases hm : m.isMount with
    | false => simp [hm]
    | true => simp [hm, load?_eq_none_of_isMount m hm]
  | true =>
    have hne : (ms.dropWhile (!·.isMount)).isEmpty = false := by
      rw [List.isEmpty_eq_false_iff, Ne, dropWhile_eq_nil_iff, h]
      decide
    simp only [hne, Bool.false_eq_true, if_false, if_true, List.findSome?_append,
      List.findSome?_cons, List.findSome?_nil]
    cases m.load? <;> rfl

theorem settling?_append_of_some {outcome : Outcome (List Entry)} (more : List Message)
    (h : settling? ms = some outcome) : settling? (ms ++ more) = some outcome := by
  induction more using List.reverseRecOn with
  | nil => rwa [List.append_nil]
  | append_singleton more m ih => rw [← List.append_assoc, settling?_snoc, ih, Option.some_or]

theorem settling?_eq_none_of_not_mounted (h : ms.any Message.isMount = false) :
    settling? ms = none := by
  rw [settling?, (dropWhile_eq_nil_iff ms).mpr h]
  rfl

theorem phaseAfter_eq_loading_iff : phaseAfter ms = .loading ↔ Awaited ms := by
  unfold phaseAfter Awaited
  rcases settling? ms with _ | f | items <;> simp

theorem phaseAfter_eq_unmounted_iff :
    phaseAfter ms = .unmounted ↔ ms.any Message.isMount = false := by
  unfold phaseAfter
  cases h : ms.any Message.isMount with
  | false => simp [settling?_eq_none_of_not_mounted ms h]
  | true => rcases settling? ms with _ | f | items <;> simp

end Loading

/-! ## One message -/

namespace Pad
variable (p : Pad) (m : Message)

/-- Entries come with a response that is awaited, and from nowhere else. -/
theorem update_items : (p.update m).1.catalog.items =
    match p.catalog.phase, m.load? with
    | .loading, some (.ok items) => items
    | _, _ => p.catalog.items := by
  rw [update_catalog]
  cases m with
  | catalogLoaded outcome =>
    rcases p.catalog with _ | _ | ⟨items, selected⟩ | _ <;> try rfl
    obtain f | (_ | ⟨e, rest⟩) := outcome <;> rfl
  | _ => rcases p.catalog with _ | _ | ⟨items, selected⟩ | _ <;> rfl

/-- A response that is awaited installs the value of its first entry. -/
theorem chosen?_eq (outcome : Outcome (List Entry)) : p.catalog.chosen? outcome =
    if p.catalog.phase = .loading then (outcome.toOption.bind List.head?).map (·.value)
    else none := by
  rcases p.catalog with _ | _ | ⟨items, selected⟩ | _
  case loading => obtain f | (_ | ⟨e, rest⟩) := outcome <;> rfl
  all_goals rfl

theorem update_load_of_not_loading (outcome : Outcome (List Entry))
    (h : p.catalog.phase ≠ .loading) : (p.update (.catalogLoaded outcome)).1 = p := by
  apply update_eq_self_of_unchanged
  have hi : p.catalog.finishLoad outcome = (p.catalog, .ignored) := by
    rcases hc : p.catalog with _ | _ | ⟨items, selected⟩ | _ <;> simp_all [Catalog.phase] <;> rfl
  simp only [update, hi]
  rfl

theorem update_mount_of_mounted (h : p.catalog.phase ≠ .unmounted) :
    (p.update .catalogMounted).1 = p := by
  apply update_eq_self_of_unchanged
  have hi : p.catalog.mount = (p.catalog, false) := by
    rcases hc : p.catalog with _ | _ | ⟨items, selected⟩ | _ <;> simp_all [Catalog.phase] <;> rfl
  simp only [update, hi]
  rfl

/-! ## Runs -/

open Loading

/-- The texts that responses install along some messages, in order. -/
def installed (p : Pad) : List Message → List String
  | [] => []
  | m :: rest => (m.load?.bind p.catalog.chosen?).toList ++ installed (p.update m).1 rest

theorem installed_append (ms ms' : List Message) :
    p.installed (ms ++ ms') = p.installed ms ++ (p.run ms).1.installed ms' := by
  induction ms generalizing p with
  | nil => rfl
  | cons m ms ih => simp only [List.cons_append, installed, run, ih, List.append_assoc]

variable (policy : Policy) (ms : List Message)

theorem after_phase : (after policy ms).catalog.phase = phaseAfter ms := by
  induction ms using List.reverseRecOn with
  | nil => rfl
  | append_singleton ms m ih =>
    rw [after_snoc, update_phase, ih]
    unfold phaseAfter
    rw [settling?_snoc, List.any_append]
    cases h : ms.any Message.isMount with
    | false => simp [settling?_eq_none_of_not_mounted ms h]
    | true =>
      rcases settling? ms with _ | f | items
      · rcases m.load? with _ | f | items <;> simp
      · rfl
      · rfl

theorem requests_fetches : ((empty policy).requests ms).countP Request.isFetch =
    if ms.any Message.isMount then 1 else 0 := by
  induction ms using List.reverseRecOn with
  | nil => rfl
  | append_singleton ms m ih =>
    have hm := update_fetches (after policy ms) m
    simp only [after_phase, phaseAfter_eq_unmounted_iff] at hm
    rw [requests_snoc, List.countP_append, ih, List.any_append]
    change _ + ((after policy ms).update m).2.requests.countP Request.isFetch = _
    rw [hm]
    cases ms.any Message.isMount <;> cases h : m.isMount <;> simp [h]

theorem fetch_mem_iff : .fetchCatalog ∈ ((after policy ms).update m).2.requests ↔
    m = .catalogMounted ∧ ms.any Message.isMount = false := by
  rw [← phaseAfter_eq_unmounted_iff, ← after_phase policy, update_requests]
  cases m with
  | catalogMounted =>
    rcases (after policy ms).catalog with _ | _ | ⟨items, selected⟩ | _ <;>
      simp [Catalog.mount, Catalog.phase]
  | _ => simp

theorem after_items : (after policy ms).catalog.items = (accepted? ms).getD [] := by
  induction ms using List.reverseRecOn with
  | nil => rfl
  | append_singleton ms m ih =>
    rw [after_snoc, update_items, after_phase, ih]
    unfold phaseAfter accepted?
    rw [settling?_snoc]
    cases h : ms.any Message.isMount with
    | false => simp [settling?_eq_none_of_not_mounted ms h]
    | true =>
      rcases settling? ms with _ | f | items
      · rcases m.load? with _ | f | items <;> rfl
      · rfl
      · rfl

theorem installed_eq : (empty policy).installed ms =
    (((accepted? ms).bind List.head?).map (·.value)).toList := by
  induction ms using List.reverseRecOn with
  | nil => rfl
  | append_singleton ms m ih =>
    have hm : ((empty policy).run ms).1.installed [m] =
        (m.load?.bind (after policy ms).catalog.chosen?).toList := List.append_nil _
    rw [installed_append, ih, hm]
    unfold accepted?
    rw [settling?_snoc]
    by_cases ha : Awaited ms
    · have hc : (after policy ms).catalog.chosen? =
          fun outcome => (outcome.toOption.bind List.head?).map (·.value) := by
        funext outcome
        rw [chosen?_eq, after_phase, if_pos ((phaseAfter_eq_loading_iff ms).mpr ha)]
      rw [hc, ha.1, ha.2]
      cases m.load? <;> rfl
    · have hc : (after policy ms).catalog.chosen? = fun _ => none := by
        funext outcome
        rw [chosen?_eq, after_phase, if_neg (mt (phaseAfter_eq_loading_iff ms).mp ha)]
      have hs : (settling? ms).or (if ms.any Message.isMount then m.load? else none) =
          settling? ms := by
        cases hmount : ms.any Message.isMount with
        | false => simp
        | true =>
          obtain ⟨outcome, ho⟩ := Option.ne_none_iff_exists'.mp fun h => ha ⟨hmount, h⟩
          rw [ho, Option.some_or]
      rw [hc, hs]
      simp

/-! ## The catalog along a run -/

/-- What is true of the catalog after the messages `ms` to the empty pad, and of what any message
does to it then. -/
structure FilledOnce : Prop where
  /-- At most one fetch is requested, namely by the first mount. -/
  fetches : ((empty policy).requests ms).countP Request.isFetch =
    if ms.any Message.isMount then 1 else 0
  fetched : ∀ m, .fetchCatalog ∈ ((after policy ms).update m).2.requests ↔
    m = .catalogMounted ∧ ms.any Message.isMount = false
  /-- The entries are those of the response that settled the load, and stay. -/
  items : (after policy ms).catalog.items = (accepted? ms).getD []
  kept : ∀ entries more, accepted? ms = some entries →
    (after policy (ms ++ more)).catalog.items = entries
  /-- They change only where a response is awaited, and that is so only once. -/
  filled : ∀ m, ((after policy ms).update m).1.catalog.items ≠ (after policy ms).catalog.items →
    Awaited ms ∧ ∃ entries, m = .catalogLoaded (.ok entries) ∧
      ((after policy ms).update m).1.catalog.items = entries
  settled : ∀ outcome more, Awaited ms → ¬ Awaited (ms ++ .catalogLoaded outcome :: more)
  /-- Any other response and any later mount leave the whole pad as it was. -/
  ignored : ∀ outcome, ¬ Awaited ms →
    ((after policy ms).update (.catalogLoaded outcome)).1 = after policy ms
  remounted : ms.any Message.isMount = true →
    ((after policy ms).update .catalogMounted).1 = after policy ms
  phase : (after policy ms).catalog.phase = phaseAfter ms
  moves : ∀ m, ((after policy ms).update m).1.catalog.phase = phaseAfter ms ∨
    Phase.Next (phaseAfter ms) ((after policy ms).update m).1.catalog.phase
  loaded : (after policy ms).catalog.items ≠ [] → phaseAfter ms = .loaded
  /-- Of all responses together at most one installs a text: the first value of the entries. -/
  installed : (empty policy).installed ms =
    (((accepted? ms).bind List.head?).map (·.value)).toList
  installs : ∀ outcome, ((after policy ms).update (.catalogLoaded outcome)).1.editor =
    ((after policy ms).catalog.chosen? outcome).elim (after policy ms).editor fun value =>
      { (after policy ms).editor with text := value }

/-- Under any policy, and after any messages to the empty pad. -/
theorem filledOnce : FilledOnce policy ms where
  fetches := requests_fetches policy ms
  fetched m := fetch_mem_iff m policy ms
  items := after_items policy ms
  kept entries more h := by
    obtain ⟨outcome, hs, ho⟩ := Option.bind_eq_some_iff.mp h
    rw [after_items, accepted?, settling?_append_of_some ms more hs, Option.bind_some, ho]
    rfl
  filled m h := by
    rw [update_items, after_phase] at h
    split at h
    next entries hp hl =>
      rw [update_items, after_phase, hp, hl]
      refine ⟨(phaseAfter_eq_loading_iff ms).mp hp, entries, ?_, rfl⟩
      cases m <;> cases hl
      rfl
    next => exact absurd rfl h
  settled outcome more h := by
    have hs : settling? (ms ++ [.catalogLoaded outcome]) = some outcome := by
      rw [settling?_snoc, h.1, h.2]
      rfl
    intro ha
    have hn := ha.2
    rw [List.append_cons, settling?_append_of_some _ more hs] at hn
    cases hn
  ignored outcome h := by
    apply update_load_of_not_loading
    rw [after_phase]
    exact mt (phaseAfter_eq_loading_iff ms).mp h
  remounted h := by
    apply update_mount_of_mounted
    rw [after_phase, Ne, phaseAfter_eq_unmounted_iff, h]
    decide
  phase := after_phase policy ms
  moves m := by
    rw [update_phase, after_phase]
    split
    next hp =>
      split
      · exact .inr (hp ▸ .mount)
      · exact .inl hp.symm
    next hp _ => exact .inr (hp ▸ .load)
    next hp _ => exact .inr (hp ▸ .fail)
    next => exact .inl rfl
  loaded h := by
    rw [after_items, accepted?] at h
    unfold phaseAfter
    rcases hs : settling? ms with _ | f | entries
    · exact absurd (by rw [hs]; rfl) h
    · exact absurd (by rw [hs]; rfl) h
    · rfl
  installed := installed_eq policy ms
  installs outcome := update_editor _ _

end Pad
end Scratchpad
