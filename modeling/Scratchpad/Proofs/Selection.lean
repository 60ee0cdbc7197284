import Scratchpad.Frame
import Scratchpad.Proofs.Draft
import Scratchpad.Proofs.History
import Scratchpad.Proofs.Loading

/-!
# What the selection marks

The catalog delivers a value to the editor when an awaited response brings entries and when a value
is selected. The selection is the position of the first entry with the value delivered last, so a
frame marks at most one of its choices, and the text is the value of that choice until it is edited.
Selecting by name delivers the value of the first entry of that name. What is then marked is the
first entry of that value, which is another one if an earlier entry has the same value.
-/

namespace Scratchpad

/-! ## Marks of a frame -/

namespace Frame

/-- The choices that are marked as selected. -/
def marked (f : Frame) : List Choice :=
  f.choices.filter (·.selected)

theorem filter_selected_mapIdx (items : List Entry) (selected : Option Nat) :
    (items.mapIdx fun i e => (⟨e.name, e.value, selected == some i⟩ : Choice)).filter (·.selected) =
      ((selected.bind (items[·]?)).map fun e => ⟨e.name, e.value, true⟩).toList := by
  induction items generalizing selected with
  | nil => cases selected <;> rfl
  | cons e rest ih =>
    rw [List.mapIdx_cons, List.filter_cons]
    cases selected with
    | none => simpa using ih none
    | some k =>
      cases k with
      | zero =>
        have hrest := ih none
        simp only [Option.none_beq_some] at hrest
        simp [hrest]
      | succ k => simpa using ih (some k)

theorem marked_ofPad (p : Pad) : (ofPad p).marked =
    ((p.catalog.selected.bind (p.catalog.items[·]?)).map fun e => ⟨e.name, e.value, true⟩).toList :=
  filter_selected_mapIdx p.catalog.items p.catalog.selected

theorem entries_ofPad (p : Pad) :
    (ofPad p).choices.map (fun c => (⟨c.label, c.value⟩ : Entry)) = p.catalog.items := by
  apply List.ext_getElem?
  intro i
  rw [ofPad, List.getElem?_map, List.getElem?_mapIdx, Option.map_map]
  exact Option.map_id'

end Frame

/-! ## One message -/

/-- The value that the catalog delivers to the editor. -/
def Catalog.delivered? (c : Catalog) : Message → Option String
  | .catalogLoaded outcome => c.chosen? outcome
  | .selectionChanged value => some value
  | _ => none

def Message.isTextChange : Message → Bool
  | .textChanged _ => true
  | _ => false

namespace Pad
variable (p : Pad) (m : Message)

theorem update_text_of_delivered {value : String} (h : p.catalog.delivered? m = some value) :
    (p.update m).1.editor.text = value := by
  rw [update_text]
  cases m with
  | catalogLoaded outcome =>
    have hc : p.catalog.chosen? outcome = some value := h
    simp only [hc, Option.getD_some]
  | selectionChanged value' => exact Option.some.inj h
  | _ => cases h

theorem update_text_of_not_delivered (h : p.catalog.delivered? m = none)
    (hm : m.isTextChange = false) : (p.update m).1.editor.text = p.editor.text := by
  rw [update_text]
  cases m with
  | textChanged text => cases hm
  | catalogLoaded outcome =>
    have hc : p.catalog.chosen? outcome = none := h
    simp only [hc, Option.getD_none]
  | selectionChanged value => cases h
  | _ => rfl

/-- The first entry is the first one of its value. -/
theorem update_selected_of_delivered {value : String}
    (h : p.catalog.delivered? m = some value) :
    (p.update m).1.catalog.selected =
      (p.update m).1.catalog.items.findIdx? (·.value == value) := by
  rw [update_catalog]
  generalize p.catalog = c at h ⊢
  cases m with
  | catalogLoaded outcome =>
    rcases c with _ | _ | ⟨items, selected⟩ | _
    case loading =>
      obtain f | (_ | ⟨e, rest⟩) := outcome
      · cases h
      · cases h
      · obtain rfl : e.value = value := Option.some.inj h
        simp [Catalog.finishLoad, Catalog.selected, Catalog.items, List.findIdx?_cons]
    all_goals cases h
  | selectionChanged value' =>
    obtain rfl : value' = value := Option.some.inj h
    rcases c with _ | _ | ⟨items, selected⟩ | _ <;> rfl
  | _ => cases h

theorem update_selected_of_not_delivered (h : p.catalog.delivered? m = none) :
    (p.update m).1.catalog.selected = p.catalog.selected ∧
      (p.update m).1.catalog.items = p.catalog.items := by
  rw [update_catalog]
  generalize p.catalog = c at h ⊢
  cases m with
  | catalogMounted => rcases c with _ | _ | ⟨items, selected⟩ | _ <;> exact ⟨rfl, rfl⟩
  | catalogLoaded outcome =>
    rcases c with _ | _ | ⟨items, selected⟩ | _
    case loading =>
      obtain f | (_ | ⟨e, rest⟩) := outcome
      · exact ⟨rfl, rfl⟩
      · exact ⟨rfl, rfl⟩
      · cases h
    all_goals exact ⟨rfl, rfl⟩
  | selectionChanged value => cases h
  | _ => exact ⟨rfl, rfl⟩

end Pad

/-! ## Histories -/

namespace Loading

/-- The value that the catalog delivers by a message that comes after `before`. -/
def delivered? (before : List Message) : Message → Option String
  | .catalogLoaded outcome =>
    if phaseAfter before = .loading then (outcome.toOption.bind List.head?).map (·.value) else none
  | .selectionChanged value => some value
  | _ => none

/-- Of the messages `ms`, the last one by which the catalog delivers a value is `m`, which comes
after `before`; by then the load is settled, and the messages `since` come later. -/
structure LastDelivery (ms before : List Message) (m : Message) (since : List Message)
    (value : String) : Prop where
  last : LastOf (fun before m => (delivered? before m).isSome = true) ms before m since
  delivers : delivered? before m = some value
  loaded : phaseAfter (before ++ [m]) = .loaded

namespace LastDelivery
variable {ms before since : List Message} {m m' : Message} {value : String}

theorem newest (h : delivered? ms m = some value) (hl : phaseAfter (ms ++ [m]) = .loaded) :
    LastDelivery (ms ++ [m]) ms m [] value :=
  ⟨.newest (by rw [h]; rfl), h, hl⟩

theorem snoc (h : LastDelivery ms before m since value) (hm : delivered? ms m' = none) :
    LastDelivery (ms ++ [m']) before m (since ++ [m']) value :=
  ⟨h.last.snoc (by simp [hm]), h.delivers, h.loaded⟩

theorem snoc_cases (h : LastDelivery (ms ++ [m']) before m since value) :
    (before = ms ∧ m = m' ∧ since = []) ∨
      ∃ since', since = since' ++ [m'] ∧ LastDelivery ms before m since' value ∧
        delivered? ms m' = none := by
  rcases h.last.snoc_cases with hnew | ⟨since', hs, hlast, hm⟩
  · exact .inl hnew
  · exact .inr ⟨since', hs, ⟨hlast, h.delivers, h.loaded⟩, Option.not_isSome_iff_eq_none.mp hm⟩

end LastDelivery
end Loading

namespace Pad
open Loading
variable (policy : Policy) (ms : List Message)

theorem delivered?_after (m : Message) :
    (after policy ms).catalog.delivered? m = Loading.delivered? ms m := by
  cases m with
  | catalogLoaded outcome =>
    rw [Catalog.delivered?, chosen?_eq, after_phase]
    rfl
  | _ => rfl

theorem selected_of_lastDelivery {before since : List Message} {m : Message} {value : String}
    (h : LastDelivery ms before m since value) : (after policy ms).catalog.selected =
      (after policy ms).catalog.items.findIdx? (·.value == value) := by
  induction ms using List.reverseRecOn generalizing since with
  | nil => exact absurd h.last LastOf.not_nil
  | append_singleton ms m' ih =>
    rw [after_snoc]
    rcases h.snoc_cases with ⟨rfl, rfl, rfl⟩ | ⟨since', rfl, h', hm⟩
    · exact update_selected_of_delivered _ _ ((delivered?_after policy before m).trans h.delivers)
    · obtain ⟨hs, hi⟩ :=
        update_selected_of_not_delivered _ _ ((delivered?_after policy ms m').trans hm)
      rw [hs, hi, ih h']

theorem text_of_lastDelivery {before since : List Message} {m : Message} {value : String}
    (h : LastDelivery ms before m since value) (hs : ∀ m' ∈ since, m'.isTextChange = false) :
    (after policy ms).editor.text = value := by
  induction ms using List.reverseRecOn generalizing since with
  | nil => exact absurd h.last LastOf.not_nil
  | append_singleton ms m' ih =>
    rw [after_snoc]
    rcases h.snoc_cases with ⟨rfl, rfl, rfl⟩ | ⟨since', rfl, h', hm⟩
    · exact update_text_of_delivered _ _ ((delivered?_after policy before m).trans h.delivers)
    · have hm' : m'.isTextChange = false := hs m' (by simp)
      rw [update_text_of_not_delivered _ _ ((delivered?_after policy ms m').trans hm) hm']
      exact ih h' fun m'' hmem => hs m'' (List.mem_append_left _ hmem)

theorem exists_lastDelivery (h : (after policy ms).catalog.items ≠ []) :
    ∃ before m since value, LastDelivery ms before m since value := by
  induction ms using List.reverseRecOn with
  | nil => exact absurd rfl h
  | append_singleton ms m ih =>
    cases hm : Loading.delivered? ms m with
    | some value =>
      exact ⟨ms, m, [], value, .newest hm ((filledOnce policy (ms ++ [m])).loaded h)⟩
    | none =>
      rw [after_snoc, (update_selected_of_not_delivered _ _
        ((delivered?_after policy ms m).trans hm)).2] at h
      obtain ⟨before, m', since, value, h'⟩ := ih h
      exact ⟨before, m', since ++ [m], value, h'.snoc hm⟩

theorem selected_of_no_items (h : (after policy ms).catalog.items = []) :
    (after policy ms).catalog.selected = none := by
  induction ms using List.reverseRecOn with
  | nil => rfl
  | append_singleton ms m ih =>
    rw [after_snoc] at h ⊢
    cases hm : (after policy ms).catalog.delivered? m with
    | some value => rw [update_selected_of_delivered _ _ hm, h, List.findIdx?_nil]
    | none =>
      obtain ⟨hs, hi⟩ := update_selected_of_not_delivered _ _ hm
      rw [hs, ih (hi ▸ h)]

/-- While a value is the one delivered last, its first entry is the one that is marked. -/
theorem marked_of_lastDelivery {before since : List Message} {m : Message} {value : String}
    (h : LastDelivery ms before m since value) : (Frame.ofPad (after policy ms)).marked =
      (((after policy ms).catalog.items.find? (·.value == value)).map fun e =>
        ⟨e.name, e.value, true⟩).toList := by
  rw [Frame.marked_ofPad, selected_of_lastDelivery policy ms h,
    List.find?_eq_bind_findIdx?_getElem?]

theorem lt_length_of_selected {i : Nat} (h : (after policy ms).catalog.selected = some i) :
    i < (after policy ms).catalog.items.length := by
  by_cases hi : (after policy ms).catalog.items = []
  · rw [selected_of_no_items policy ms hi] at h
    cases h
  · obtain ⟨before, m, since, value, hd⟩ := exists_lastDelivery policy ms hi
    rw [selected_of_lastDelivery policy ms hd, List.findIdx?_eq_some_iff_getElem] at h
    exact h.1

/-- What is selected after the messages `ms` to the empty pad, and what its frame shows of it. -/
structure Highlighted : Prop where
  empty : (after policy ms).catalog.items = [] → (after policy ms).catalog.selected = none
  /-- Where there are entries, one was delivered last, since the load. -/
  delivered : (after policy ms).catalog.items ≠ [] →
    ∃ before m since value, LastDelivery ms before m since value
  /-- The selection is the least position of an entry with the value delivered last. -/
  least : ∀ before m since value, LastDelivery ms before m since value →
    ∀ i, (after policy ms).catalog.selected = some i ↔
      (∃ e, (after policy ms).catalog.items[i]? = some e ∧ e.value = value) ∧
        ∀ j < i, ∀ e, (after policy ms).catalog.items[j]? = some e → e.value ≠ value
  absent : ∀ before m since value, LastDelivery ms before m since value →
    ((after policy ms).catalog.selected = none ↔
      ∀ e ∈ (after policy ms).catalog.items, e.value ≠ value)
  bound : ∀ i, (after policy ms).catalog.selected = some i →
    i < (after policy ms).catalog.items.length
  /-- A frame has a choice for every entry, in order, and marks the selected one. -/
  choices : (Frame.ofPad (after policy ms)).choices.map (fun c => (⟨c.label, c.value⟩ : Entry)) =
    (after policy ms).catalog.items
  marked : ∀ i, (∃ c, (Frame.ofPad (after policy ms)).choices[i]? = some c ∧ c.selected = true) ↔
    (after policy ms).catalog.selected = some i
  single : (Frame.ofPad (after policy ms)).marked.length ≤ 1
  /-- Until it is edited, the text is the value of the marked choice. -/
  text : ∀ before m since value, LastDelivery ms before m since value →
    (∀ m' ∈ since, m'.isTextChange = false) →
    ∀ c ∈ (Frame.ofPad (after policy ms)).marked, (after policy ms).editor.text = c.value

/-- Under any policy, and after any messages to the empty pad. -/
theorem highlighted : Highlighted policy ms where
  empty := selected_of_no_items policy ms
  delivered := exists_lastDelivery policy ms
  least before m since value h i := by
    rw [selected_of_lastDelivery policy ms h, List.findIdx?_eq_some_iff_getElem]
    constructor
    · rintro ⟨hi, hv, hj⟩
      refine ⟨⟨_, List.getElem?_eq_getElem hi, eq_of_beq hv⟩, fun j hji e he => ?_⟩
      obtain ⟨hlt, rfl⟩ := List.getElem?_eq_some_iff.mp he
      exact fun hv' => hj j hji (beq_iff_eq.mpr hv')
    · rintro ⟨⟨e, he, hv⟩, hj⟩
      obtain ⟨hi, rfl⟩ := List.getElem?_eq_some_iff.mp he
      refine ⟨hi, beq_iff_eq.mpr hv, fun j hji hv' => ?_⟩
      exact hj j hji _ (List.getElem?_eq_getElem (Nat.lt_trans hji hi)) (eq_of_beq hv')
  absent before m since value h := by
    rw [selected_of_lastDelivery policy ms h, List.findIdx?_eq_none_iff]
    simp only [beq_eq_false_iff_ne]
  bound i := lt_length_of_selected policy ms
  choices := Frame.entries_ofPad _
  marked i := by
    constructor
    · rintro ⟨c, hc, hs⟩
      obtain ⟨e, _, rfl⟩ : ∃ e, (after policy ms).catalog.items[i]? = some e ∧ _ = c := by
        simpa [Frame.ofPad] using hc
      exact eq_of_beq hs
    · intro hs
      obtain ⟨e, he⟩ : ∃ e, (after policy ms).catalog.items[i]? = some e :=
        ⟨_, List.getElem?_eq_getElem (lt_length_of_selected policy ms hs)⟩
      refine ⟨⟨e.name, e.value, (after policy ms).catalog.selected == some i⟩, ?_,
        beq_iff_eq.mpr hs⟩
      rw [Frame.ofPad, List.getElem?_mapIdx, he, Option.map_some]
  single := by
    rw [Frame.marked_ofPad]
    exact Option.length_toList_le
  text before m since value h hs c hc := by
    rw [marked_of_lastDelivery policy ms h] at hc
    obtain ⟨e, he, rfl⟩ : ∃ e, (after policy ms).catalog.items.find? (·.value == value) = some e ∧
        (⟨e.name, e.value, true⟩ : Choice) = c := by simpa using hc
    have hv := List.find?_some he
    rw [text_of_lastDelivery policy ms h hs]
    exact (eq_of_beq hv).symm

/-- Of two entries with the same value the first one is marked, whatever is typed since. -/
theorem highlighted_of_shared_value :
    let before : List Message :=
      [.catalogMounted, .catalogLoaded (.ok [⟨"a", "1"⟩, ⟨"b", "2"⟩, ⟨"c", "2"⟩])]
    let ms : List Message := before ++ [.selectionChanged "2", .textChanged "3"]
    LastDelivery ms before (.selectionChanged "2") [.textChanged "3"] "2" ∧
      (after .latestIssued ms).catalog.selected = some 1 := by
  intro before ms
  have h : LastDelivery (before ++ [.selectionChanged "2"]) before (.selectionChanged "2") [] "2" :=
    .newest rfl rfl
  have hd : LastDelivery ms before (.selectionChanged "2") [.textChanged "3"] "2" := h.snoc rfl
  refine ⟨hd, ((highlighted .latestIssued ms).least _ _ _ _ hd 1).mpr ⟨⟨⟨"b", "2"⟩, rfl, rfl⟩, ?_⟩⟩
  intro j hj e he
  obtain rfl := Nat.lt_one_iff.mp hj
  obtain rfl := Option.some.inj he
  decide

end Pad

/-! ## Selecting by name -/

/-- The first entry of the value of `e` has the name of `e`, which no entry before `e` has, exactly
if none of these has the value of `e` either. -/
theorem Entry.name_eq_iff_of_find? {before after : List Entry} {e found : Entry}
    (hbefore : ∀ e' ∈ before, e'.name ≠ e.name)
    (h : (before ++ e :: after).find? (·.value == e.value) = some found) :
    found.name = e.name ↔ ∀ e' ∈ before, e'.value ≠ e.value := by
  rw [List.find?_append] at h
  cases hb : before.find? (·.value == e.value) with
  | none =>
    have hfound : found = e := by simpa [hb] using h.symm
    have hne : ∀ e' ∈ before, e'.value ≠ e.value := by simpa using hb
    exact iff_of_true (congrArg Entry.name hfound) hne
  | some e' =>
    obtain rfl : e' = found := by simpa [hb] using h
    have hmem := List.mem_of_find?_eq_some hb
    have hv := List.find?_some hb
    exact iff_of_false (hbefore e' hmem) fun hne => hne e' hmem (eq_of_beq hv)

namespace Session
variable {σ : Type} (d : Device σ) (s : Session σ) {items : List Entry} {old : Option Nat}
  {name : String}

theorem apply_select_pad {e : Entry} (h : s.pad.catalog.find? name = some e) :
    (s.apply d (.command (.select name))).1.pad = (s.pad.update (.selectionChanged e.value)).1 := by
  rw [apply_pad, Pad.take, Pad.reading?, h]
  rfl

/-- Selecting a name that the catalog has marks one choice, the first one with the value of the
first entry of that name. Its label is that name unless an earlier entry has the same value. -/
theorem marked_select (hc : s.pad.catalog = .loaded items old)
    (hn : name ∈ items.map (·.name)) :
    let f := Frame.ofPad (s.apply d (.command (.select name))).1.pad
    ∃ before e after c, items = before ++ e :: after ∧ e.name = name ∧
      (∀ e' ∈ before, e'.name ≠ name) ∧ f.text = e.value ∧
      f.marked = [c] ∧ items.find? (·.value == e.value) = some ⟨c.label, c.value⟩ ∧
      (c.label = name ↔ ∀ e' ∈ before, e'.value ≠ e.value) := by
  intro f
  obtain ⟨e₀, he₀, hname₀⟩ := List.mem_map.mp hn
  obtain ⟨e, he⟩ : ∃ e, items.find? (·.name == name) = some e := by
    rw [← Option.isSome_iff_exists, List.find?_isSome]
    exact ⟨e₀, he₀, beq_iff_eq.mpr hname₀⟩
  have hfind : s.pad.catalog.find? name = some e := by rw [hc]; exact he
  have hcatalog : (s.apply d (.command (.select name))).1.pad.catalog =
      .loaded items (items.findIdx? (·.value == e.value)) := by
    rw [s.apply_select_pad d hfind, Pad.update_catalog, hc]
    rfl
  have htext : f.text = e.value := by
    change (s.apply d (.command (.select name))).1.pad.editor.text = e.value
    rw [s.apply_select_pad d hfind, Pad.update_text]
  have hmarked : f.marked =
      ((items.find? (·.value == e.value)).map fun e => ⟨e.name, e.value, true⟩).toList := by
    rw [Frame.marked_ofPad, hcatalog, List.find?_eq_bind_findIdx?_getElem?]
    rfl
  obtain ⟨found, hfound⟩ : ∃ found, items.find? (·.value == e.value) = some found := by
    rw [← Option.isSome_iff_exists, List.find?_isSome]
    exact ⟨e, List.mem_of_find?_eq_some he, BEq.rfl⟩
  obtain ⟨hname, before, after, rfl, hbefore⟩ := List.find?_eq_some_iff_append.mp he
  obtain rfl : e.name = name := eq_of_beq hname
  have hbefore' : ∀ e' ∈ before, e'.name ≠ e.name := by simpa using hbefore
  refine ⟨before, e, after, ⟨found.name, found.value, true⟩, rfl, rfl, hbefore', htext, ?_, hfound,
    Entry.name_eq_iff_of_find? hbefore' hfound⟩
  rw [hmarked, hfound]
  rfl

/-- A session that was mounted and got these entries. -/
def stocked (entries : List Entry) : Session Tank :=
  ((start .latestIssued Tank.unlimited).play Tank.device
    [.input (.message .catalogMounted), .input (.message (.catalogLoaded (.ok entries)))]).1

theorem stocked_catalog (e : Entry) (rest : List Entry) :
    (stocked (e :: rest)).pad.catalog = .loaded (e :: rest) (some 0) := by
  rw [stocked, play_pad]
  rfl

/-- Of two entries of one name the first one is selected and marked. -/
theorem marked_select_of_repeated_name :
    let entries : List Entry := [⟨"a", "1"⟩, ⟨"b", "2"⟩, ⟨"b", "3"⟩]
    (stocked entries).pad.catalog = .loaded entries (some 0) ∧ "b" ∈ entries.map (·.name) ∧
      ∃ c, (Frame.ofPad ((stocked entries).apply Tank.device
        (.command (.select "b"))).1.pad).marked = [c] := by
  intro entries
  have hc := stocked_catalog ⟨"a", "1"⟩ [⟨"b", "2"⟩, ⟨"b", "3"⟩]
  have hn : "b" ∈ entries.map (·.name) := by decide
  obtain ⟨_, _, _, c, _, _, _, _, hmarked, _⟩ := marked_select Tank.device _ hc hn
  exact ⟨hc, hn, c, hmarked⟩

/-- When the entry of the name shares its value with an earlier one, the earlier one is marked. -/
theorem not_marked_select :
    let entries : List Entry := [⟨"a", "1"⟩, ⟨"b", "1"⟩]
    (stocked entries).pad.catalog = .loaded entries (some 0) ∧ "b" ∈ entries.map (·.name) ∧
      (Frame.ofPad ((stocked entries).apply Tank.device (.command (.select "b"))).1.pad).marked =
        [⟨"a", "1", true⟩] ∧
      ¬ ∃ c, (Frame.ofPad ((stocked entries).apply Tank.device
        (.command (.select "b"))).1.pad).marked = [c] ∧ c.label = "b" := by
  intro entries
  have hc := stocked_catalog ⟨"a", "1"⟩ [⟨"b", "1"⟩]
  have hfind : (stocked entries).pad.catalog.find? "b" = some ⟨"b", "1"⟩ := by
    rw [hc]
    rfl
  have hmarked : (Frame.ofPad ((stocked entries).apply Tank.device
      (.command (.select "b"))).1.pad).marked = [⟨"a", "1", true⟩] := by
    rw [Frame.marked_ofPad, apply_select_pad _ _ hfind, Pad.update_catalog, hc]
    rfl
  refine ⟨hc, by decide, hmarked, ?_⟩
  rintro ⟨c, hone, hlabel⟩
  obtain rfl : (⟨"a", "1", true⟩ : Choice) = c := List.singleton_inj.mp (hmarked.symm.trans hone)
  exact absurd hlabel (by decide)

end Session

end Scratchpad
