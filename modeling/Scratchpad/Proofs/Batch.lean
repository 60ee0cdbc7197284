import Scratchpad.Proofs.Pad

/-!
# Batches of completions

Requests that overlap may be answered in any order. What a pad makes of a completion depends on its
policy and on the ticket taken last, and no completion changes these. So a batch of completions has
a closed form: the tickets of the batch leave those in flight, each completion is noted as if it
came first, and the last value that is heeded is shown. Under `latestIssued` at most one value of a
batch is heeded, and the order does not matter at all; under `lastArrival` it matters to the result
alone.
-/

namespace Scratchpad

/-- The outcome of the request of a ticket. -/
abbrev Completion := Ticket × Outcome Json

def Completion.message (c : Completion) : Message :=
  .evalFinished c.1 c.2

namespace Editor
variable (e : Editor) (c : Completion)

/-- The value of a completion, if it is to be shown. -/
def heeded? (c : Completion) : Option Json :=
  if e.supersededBy? c.1 = none then c.2.toOption else none

/-- What is noted of a completion. -/
def note? (c : Completion) : Option Note :=
  match c.2, e.supersededBy? c.1 with
  | .error f, _ => some (.evalFailed c.1 f)
  | .ok _, some latest => some (.staleResponse c.1 latest)
  | .ok _, none => none

/-- The editor after some completions. -/
def answered (cs : List Completion) : Editor :=
  { e with
    inFlight := e.inFlight.filter (· ∉ cs.map Prod.fst)
    result := (cs.filterMap e.heeded?).getLast?.or e.result }

theorem answered_nil : e.answered [] = e := by
  simp [answered]

theorem answered_snoc (cs : List Completion) :
    e.answered (cs ++ [c]) = ((e.answered cs).finish c.1 c.2).1 := by
  have hin : e.inFlight.filter (· ∉ (cs ++ [c]).map Prod.fst) =
      (e.inFlight.filter (· ∉ cs.map Prod.fst)).filter (· ≠ c.1) := by
    rw [List.filter_filter]
    refine List.filter_congr fun t _ => decide_eq_decide.mpr ?_ |>.trans (Bool.decide_and _ _)
    rw [List.map_append, List.mem_append, not_or, and_comm, List.map_singleton, List.mem_singleton]
  obtain ⟨t, outcome⟩ := c
  obtain ⟨f, rfl, h⟩ | ⟨v, latest, rfl, hs, h⟩ | ⟨v, rfl, hs, h⟩ :=
    (e.answered cs).finish_cases t outcome
  · rw [h, answered, hin]
    simp [answered, heeded?, Except.toOption]
  · have hs' : e.supersededBy? t = some latest := hs
    rw [h, answered, hin]
    simp [answered, heeded?, hs']
  · have hs' : e.supersededBy? t = none := hs
    rw [h, answered, hin]
    simp [answered, heeded?, hs', Except.toOption]

/-- Under `lastArrival` every value is heeded. -/
theorem heeded?_of_lastArrival (h : e.policy = .lastArrival) : e.heeded? c = c.2.toOption := by
  have hs : e.supersededBy? c.1 = none := by
    rw [supersededBy?_eq_none_iff, h]
    exact fun hp => nomatch hp
  exact if_pos hs

section
variable (hpolicy : e.policy = .latestIssued) (hissued : 0 < e.issued)
include hpolicy hissued

/-- Under `latestIssued` only the ticket taken last is heeded, once one was taken. -/
theorem heeded?_of_latestIssued :
    e.heeded? c = if c.1 = ⟨e.issued⟩ then c.2.toOption else none := by
  have hs : e.supersededBy? c.1 = none ↔ c.1 = ⟨e.issued⟩ := by
    rw [supersededBy?_eq_none_iff]
    exact ⟨fun h => h hpolicy hissued, fun h _ _ => h⟩
  rw [heeded?]
  exact if_congr hs rfl rfl

theorem length_heeded_le_one {cs : List Completion} (hnodup : (cs.map Prod.fst).Nodup) :
    (cs.filterMap e.heeded?).length ≤ 1 := by
  induction cs with
  | nil => exact Nat.zero_le 1
  | cons c cs ih =>
    rw [List.map_cons, List.nodup_cons] at hnodup
    obtain ⟨hnew, hnodup⟩ := hnodup
    cases hc : e.heeded? c with
    | none =>
      rw [List.filterMap_cons_none hc]
      exact ih hnodup
    | some v =>
      have hlast : c.1 = ⟨e.issued⟩ := by
        by_contra hne
        rw [heeded?_of_latestIssued e c hpolicy hissued, if_neg hne] at hc
        cases hc
      -- the other tickets of the batch are different ones
      have hrest : cs.filterMap e.heeded? = [] := by
        rw [List.filterMap_eq_nil_iff]
        intro c' hc'
        have hne : c'.1 ≠ ⟨e.issued⟩ := by
          intro heq
          exact hnew (List.mem_map.mpr ⟨c', hc', heq.trans hlast.symm⟩)
        rw [heeded?_of_latestIssued e c' hpolicy hissued, if_neg hne]
      rw [List.filterMap_cons_some hc, hrest]
      exact Nat.le_refl 1

theorem answered_result_of_latest {cs : List Completion} (hnodup : (cs.map Prod.fst).Nodup)
    {v : Json} (hv : (⟨e.issued⟩, .ok v) ∈ cs) : (e.answered cs).result = some v := by
  have hmem : v ∈ cs.filterMap e.heeded? := by
    refine List.mem_filterMap.mpr ⟨(⟨e.issued⟩, .ok v), hv, ?_⟩
    rw [heeded?_of_latestIssued e _ hpolicy hissued, if_pos rfl]
    rfl
  have hlen := e.length_heeded_le_one hpolicy hissued hnodup
  obtain ⟨w, hw⟩ := List.length_eq_one_iff.mp
    (Nat.le_antisymm hlen (List.length_pos_of_mem hmem))
  rw [hw, List.mem_singleton] at hmem
  simp only [answered, hw, hmem, List.getLast?_singleton, Option.some_or]

end

end Editor

namespace Pad
variable (p : Pad) (cs : List Completion)

/-- The pad after some completions, and what was noted of them. -/
def complete (cs : List Completion) : Pad × List Note :=
  let (p, ts) := p.run (cs.map Completion.message)
  (p, ts.filterMap (·.note))

theorem update_message (c : Completion) : p.update c.message =
    ({ p with editor := (p.editor.finish c.1 c.2).1 }, ⟨[], true, p.editor.note? c⟩) := by
  obtain ⟨t, outcome⟩ := c
  obtain ⟨f, rfl, h⟩ | ⟨v, latest, rfl, hs, h⟩ | ⟨v, rfl, hs, h⟩ := p.editor.finish_cases t outcome
  · simp [Completion.message, update, h, Editor.note?, Transition.noted]
  · simp [Completion.message, update, h, hs, Editor.note?, Transition.noted]
  · simp [Completion.message, update, h, hs, Editor.note?, Transition.quiet]

/-- The closed form of a batch. -/
theorem complete_eq : p.complete cs =
    ({ p with editor := p.editor.answered cs }, cs.filterMap p.editor.note?) := by
  induction cs using List.reverseRecOn with
  | nil => rw [Editor.answered_nil]; rfl
  | append_singleton cs c ih =>
    simp only [complete, Prod.mk.injEq] at ih
    obtain ⟨hpad, hnotes⟩ := ih
    simp only [complete, List.map_append, List.map_cons, List.map_nil, run_snoc, hpad,
      update_message, List.filterMap_append, hnotes, Editor.answered_snoc]
    -- what is noted of the last completion does not depend on the others
    have hnote : (p.editor.answered cs).note? c = p.editor.note? c := rfl
    rw [List.filterMap_cons, List.filterMap_cons, hnote]
    rfl

/-- The tickets of a batch are different ones, and all of them are in flight. -/
structure Batch (p : Pad) (cs : List Completion) : Prop where
  inFlight : ∀ c ∈ cs, c.1 ∈ p.editor.inFlight
  nodup : (cs.map Prod.fst).Nodup

@[simp] theorem after_policy (policy : Policy) (ms : List Message) :
    (after policy ms).editor.policy = policy :=
  run_policy (empty policy) ms

theorem issued_of_mem_inFlight (policy : Policy) (ms : List Message) {t : Ticket}
    (h : t ∈ (after policy ms).editor.inFlight) : t ∈ tickets policy ms := by
  induction ms using List.reverseRecOn with
  | nil => cases h
  | append_singleton ms m ih =>
    rw [after_snoc, update_inFlight, List.mem_append] at h
    rw [tickets_snoc, List.mem_append]
    refine h.imp (fun ht => ih (List.mem_of_mem_filter ht)) id

theorem issued_pos_of_batch {policy : Policy} {ms : List Message} (h : Batch (after policy ms) cs)
    (hne : cs ≠ []) : 0 < (after policy ms).editor.issued := by
  obtain ⟨c, cs, rfl⟩ := List.exists_cons_of_ne_nil hne
  have ht := issued_of_mem_inFlight policy ms (h.inFlight c (.head _))
  rw [mem_tickets_iff] at ht
  exact Nat.lt_of_lt_of_le ht.1 ht.2

theorem heeded_perm {policy : Policy} {ms : List Message} {cs cs' : List Completion}
    (h : Batch (after policy ms) cs) (hpolicy : policy = .latestIssued) (hp : cs.Perm cs') :
    cs.filterMap (after policy ms).editor.heeded? =
      cs'.filterMap (after policy ms).editor.heeded? := by
  obtain rfl | hne := eq_or_ne cs []
  · rw [hp.nil_eq]
  have hlen := (after policy ms).editor.length_heeded_le_one
    ((after_policy policy ms).trans hpolicy) (issued_pos_of_batch cs h hne) h.nodup
  have hperm := hp.filterMap (after policy ms).editor.heeded?
  cases hvalues : cs.filterMap (after policy ms).editor.heeded? with
  | nil => exact (hvalues ▸ hperm).nil_eq
  | cons v vs =>
    have hvs : vs = [] := by
      rw [hvalues, List.length_cons] at hlen
      exact List.eq_nil_of_length_eq_zero (by omega)
    subst hvs
    exact (hvalues ▸ hperm).singleton_eq

/-- The pad with another result. -/
def showing (p : Pad) (result : Option Json) : Pad :=
  { p with editor := { p.editor with result } }

/-- A batch that is answered in two orders, after any messages to the empty pad. -/
theorem complete_perm (policy : Policy) (ms : List Message) (cs cs' : List Completion)
    (h : Batch (after policy ms) cs) (hp : cs.Perm cs') :
    ((after policy ms).complete cs).2.Perm ((after policy ms).complete cs').2 ∧
    (policy = .latestIssued →
      ((after policy ms).complete cs).1 = ((after policy ms).complete cs').1 ∧
      ∀ t v, (after policy ms).editor.latest? = some t → (t, .ok v) ∈ cs →
        ((after policy ms).complete cs).1.editor.result = some v) ∧
    (policy = .lastArrival →
      (∃ result, ((after policy ms).complete cs').1 =
        ((after policy ms).complete cs).1.showing result) ∧
      ∀ order ∈ [cs, cs'], ((after policy ms).complete order).1.editor.result =
        (order.filterMap (·.2.toOption)).getLast?.or (after policy ms).editor.result) := by
  have hin (t : Ticket) : t ∉ cs.map Prod.fst ↔ t ∉ cs'.map Prod.fst :=
    not_congr (hp.map Prod.fst).mem_iff
  simp only [complete_eq]
  refine ⟨hp.filterMap _, fun hpolicy => ⟨?_, fun t v ht hv => ?_⟩, fun hpolicy => ⟨?_, ?_⟩⟩
  · simp only [Editor.answered, heeded_perm h hpolicy hp, hin]
  · rw [Editor.latest?_eq_some_iff] at ht
    obtain ⟨hpos, rfl⟩ := ht
    exact Editor.answered_result_of_latest _ ((after_policy policy ms).trans hpolicy) hpos h.nodup
      hv
  · refine ⟨((after policy ms).editor.answered cs').result, ?_⟩
    simp only [Editor.answered, showing, hin]
  · intro order _
    have hheeded : (after policy ms).editor.heeded? = fun c => c.2.toOption :=
      funext fun c => Editor.heeded?_of_lastArrival _ c ((after_policy policy ms).trans hpolicy)
    simp only [Editor.answered, hheeded]

/-- Of two requests that overlap the second one is shown, whichever is answered first. -/
theorem complete_perm_of_overlap :
    Batch (after .latestIssued [.submit, .submit])
      [(⟨1⟩, .ok (.string "A")), (⟨2⟩, .ok (.string "B"))] ∧
    ((after .latestIssued [.submit, .submit]).complete
        [(⟨1⟩, .ok (.string "A")), (⟨2⟩, .ok (.string "B"))]).1 =
      ((after .latestIssued [.submit, .submit]).complete
        [(⟨2⟩, .ok (.string "B")), (⟨1⟩, .ok (.string "A"))]).1 ∧
    ((after .latestIssued [.submit, .submit]).complete
        [(⟨1⟩, .ok (.string "A")), (⟨2⟩, .ok (.string "B"))]).1.editor.result =
      some (.string "B") := by
  have h : Batch (after .latestIssued [.submit, .submit])
      [(⟨1⟩, .ok (.string "A")), (⟨2⟩, .ok (.string "B"))] :=
    ⟨by decide, by decide⟩
  obtain ⟨hpad, hresult⟩ := (complete_perm _ _ _ _ h (.swap _ _ [])).2.1 rfl
  exact ⟨h, hpad, hresult ⟨2⟩ (.string "B") rfl (.tail _ (.head _))⟩

end Pad
end Scratchpad
