import Scratchpad.Frame
import Scratchpad.Proofs.ResultPane
import Scratchpad.Proofs.Separation

/-!
# Two policies side by side

Two pads are abreast if they differ in the policy and the result at most. Whatever message they are
given they stay abreast, and their transitions differ at most in the note of a stale response, which
`lastArrival` never makes. So a policy shows in the result pane and nowhere else. As long as every
completion carries the ticket taken last, it does not show there either.
-/

namespace Scratchpad

def Note.isStale : Note → Bool
  | .staleResponse .. => true
  | _ => false

/-- The same transition, without the note of a stale response. -/
def Transition.unstale (t : Transition) : Transition :=
  { t with note := t.note.filter (!·.isStale) }

namespace Pad

/-- All is the same but the policy and the result. The count of tickets says which is the latest. -/
structure Abreast (p q : Pad) : Prop where
  text : p.editor.text = q.editor.text
  catalog : p.catalog = q.catalog
  inFlight : p.editor.inFlight = q.editor.inFlight
  issued : p.editor.issued = q.editor.issued
  latest : p.editor.latest? = q.editor.latest?

/-- Every completion carries the ticket of the last submission before it. -/
def Prompt (ms : List Message) : Prop :=
  ∀ before t outcome, before ++ [.evalFinished t outcome] <+: ms →
    (tickets .latestIssued before).getLast? = some t

variable {p q : Pad} {ms : List Message}

/-! ## One message -/

theorem Abreast.of_desk (hdesk : p.desk = q.desk) (hin : p.editor.inFlight = q.editor.inFlight)
    (hissued : p.editor.issued = q.editor.issued) : Abreast p q := by
  simp only [desk, Desk.mk.injEq] at hdesk
  exact ⟨hdesk.1, hdesk.2, hin, hissued, by rw [Editor.latest?, Editor.latest?, hissued]⟩

theorem Abreast.desk (h : Abreast p q) : p.desk = q.desk := by
  rw [Pad.desk, Pad.desk, h.text, h.catalog]

theorem Abreast.update (h : Abreast p q) (m : Message) :
    Abreast (p.update m).1 (q.update m).1 := by
  refine .of_desk ?_ ?_ ?_
  · cases hm : m.isEvaluation with
    | true => rw [update_desk_of_evaluation p hm, update_desk_of_evaluation q hm, h.desk]
    | false => exact update_desk_congr p q hm h.desk
  · rw [update_inFlight, update_inFlight, h.inFlight, h.issued]
  · rw [update_issued, update_issued, h.issued]

/-- A response is taken in silence, or noted as stale or failed. -/
theorem unstale_evalFinished (p : Pad) (t : Ticket) (outcome : Outcome Json) :
    (p.update (.evalFinished t outcome)).2.unstale =
      match outcome with
      | .ok _ => .quiet true
      | .error f => .noted true (.evalFailed t f) := by
  obtain ⟨f, rfl, h⟩ | ⟨v, latest, rfl, _, h⟩ | ⟨v, rfl, _, h⟩ := p.editor.finish_cases t outcome
  all_goals
    simp only [Pad.update, h]
    rfl

theorem Abreast.unstale (h : Abreast p q) (m : Message) :
    (p.update m).2.unstale = (q.update m).2.unstale := by
  cases m with
  | textChanged text => simp only [Pad.update, Editor.setText, h.text]
  | submit => simp only [Pad.update, Editor.begin, h.text, h.issued]
  | evalFinished t outcome => rw [unstale_evalFinished, unstale_evalFinished]
  | catalogMounted =>
    simp only [Pad.update, h.catalog]
    split <;> rfl
  | catalogLoaded outcome =>
    simp only [Pad.update, h.catalog]
    split <;> rfl
  | selectionChanged value => rfl

/-- Only a response can be stale. -/
theorem unstale_of_not_completion (p : Pad) {m : Message} (h : m.completion? = none) :
    (p.update m).2.unstale = (p.update m).2 := by
  cases m with
  | evalFinished t outcome => cases h
  | catalogMounted =>
    simp only [Pad.update]
    split <;> rfl
  | catalogLoaded outcome =>
    simp only [Pad.update]
    split <;> rfl
  | _ => rfl

/-- Under `lastArrival` nothing is. -/
theorem unstale_of_lastArrival (h : p.editor.policy = .lastArrival) (m : Message) :
    (p.update m).2.unstale = (p.update m).2 := by
  cases m with
  | evalFinished t outcome =>
    have hs : p.editor.supersededBy? t = none := by
      rw [Editor.supersededBy?_eq_none_iff, h]
      exact Policy.noConfusion
    obtain ⟨f, rfl, hf⟩ | ⟨v, latest, rfl, hl, _⟩ | ⟨v, rfl, _, hf⟩ :=
      p.editor.finish_cases t outcome
    · simp only [Pad.update, hf]
      rfl
    · rw [hs] at hl
      cases hl
    · simp only [Pad.update, hf]
      rfl
  | _ => exact unstale_of_not_completion p rfl

/-- A ticket that is not superseded in either pad is settled alike in both. -/
theorem update_of_current (hresult : p.editor.result = q.editor.result) {t : Ticket}
    (hp : p.editor.supersededBy? t = none) (hq : q.editor.supersededBy? t = none)
    (outcome : Outcome Json) :
    (p.update (.evalFinished t outcome)).1.editor.result =
        (q.update (.evalFinished t outcome)).1.editor.result ∧
      (p.update (.evalFinished t outcome)).2 = (q.update (.evalFinished t outcome)).2 := by
  cases outcome with
  | error f => exact ⟨hresult, rfl⟩
  | ok v =>
    simp only [Pad.update, Editor.finish_ok_of_current _ t v hp,
      Editor.finish_ok_of_current _ t v hq, and_self]

/-! ## Runs -/

theorem Abreast.run (h : Abreast p q) (ms : List Message) :
    Abreast (p.run ms).1 (q.run ms).1 ∧
      (p.run ms).2.map Transition.unstale = (q.run ms).2.map Transition.unstale := by
  induction ms generalizing p q with
  | nil => exact ⟨h, rfl⟩
  | cons m rest ih =>
    obtain ⟨hrest, ht⟩ := ih (h.update m)
    simp only [Pad.run, List.map_cons]
    exact ⟨hrest, by rw [h.unstale m, ht]⟩

theorem run_unstale_of_lastArrival (h : p.editor.policy = .lastArrival) (ms : List Message) :
    (p.run ms).2.map Transition.unstale = (p.run ms).2 := by
  induction ms generalizing p with
  | nil => rfl
  | cons m rest ih =>
    simp only [Pad.run, List.map_cons]
    rw [unstale_of_lastArrival h m, ih ((update_policy p m).trans h)]

theorem abreast_empty : Abreast (empty .latestIssued) (empty .lastArrival) :=
  ⟨rfl, rfl, rfl, rfl, rfl⟩

theorem Prompt.mono {ms' : List Message} (h : Prompt ms) (hp : ms' <+: ms) : Prompt ms' :=
  fun before t outcome hb => h before t outcome (hb.trans hp)

theorem prompt_nil : Prompt [] := by
  intro before t outcome hb
  simp at hb

theorem Prompt.snoc {m : Message} (h : Prompt ms)
    (hm : ∀ t outcome, m = .evalFinished t outcome → (tickets .latestIssued ms).getLast? = some t) :
    Prompt (ms ++ [m]) := by
  intro before t outcome hb
  rcases occurs_snoc_iff.mp hb with ⟨rfl, hv⟩ | hb
  · exact hm t outcome hv.symm
  · exact h before t outcome hb

/-- One more message, where no completion is superseded. -/
theorem Prompt.update {m : Message} (h : Prompt (ms ++ [m]))
    (hresult : (after .latestIssued ms).editor.result = (after .lastArrival ms).editor.result) :
    ((after .latestIssued ms).update m).1.editor.result =
        ((after .lastArrival ms).update m).1.editor.result ∧
      ((after .latestIssued ms).update m).2 = ((after .lastArrival ms).update m).2 := by
  have ha : Abreast (after .latestIssued ms) (after .lastArrival ms) := (abreast_empty.run ms).1
  cases hm : m.completion? with
  | some c =>
    cases m with
    | evalFinished t outcome =>
      have hlast : (tickets .latestIssued ms).getLast? = some t := h ms t outcome (List.prefix_refl _)
      have hp : (after .latestIssued ms).editor.supersededBy? t = none :=
        not_superseded_of_heeded fun _ => hlast
      have hq : (after .lastArrival ms).editor.supersededBy? t = none :=
        not_superseded_of_heeded Policy.noConfusion
      exact update_of_current hresult hp hq outcome
    | _ => cases hm
  | none =>
    refine ⟨?_, ?_⟩
    · rw [update_result_of_not_completion _ m hm, update_result_of_not_completion _ m hm, hresult]
    · rw [← unstale_of_not_completion _ hm, ha.unstale m, unstale_of_not_completion _ hm]

theorem Prompt.run (h : Prompt ms) :
    (after .latestIssued ms).editor.result = (after .lastArrival ms).editor.result ∧
      ((empty .latestIssued).run ms).2 = ((empty .lastArrival).run ms).2 := by
  induction ms using List.reverseRecOn with
  | nil => exact ⟨rfl, rfl⟩
  | append_singleton ms m ih =>
    obtain ⟨hresult, htransitions⟩ := ih (h.mono (List.prefix_append _ _))
    obtain ⟨hresult', htransition⟩ := h.update hresult
    refine ⟨?_, ?_⟩
    · rw [after_snoc, after_snoc, hresult']
    · rw [run_snoc, run_snoc, htransitions]
      exact congrArg (_ ++ [·]) htransition

/-- The same messages under both policies. After every one of them the pads are abreast, and every
transition is the same but for the note of a stale response. If all completions are prompt, then the
pads show the same frame all along and every transition is the same. -/
theorem run_abreast (ms : List Message) :
    (∀ before, before <+: ms → Abreast (after .latestIssued before) (after .lastArrival before)) ∧
    ((empty .latestIssued).run ms).2.map Transition.unstale = ((empty .lastArrival).run ms).2 ∧
    (Prompt ms →
      (∀ before, before <+: ms →
        (after .latestIssued before).editor.result = (after .lastArrival before).editor.result ∧
        Frame.ofPad (after .latestIssued before) = Frame.ofPad (after .lastArrival before)) ∧
      ((empty .latestIssued).run ms).2 = ((empty .lastArrival).run ms).2) := by
  refine ⟨fun before _ => (abreast_empty.run before).1, ?_, fun h => ⟨fun before hb => ?_, h.run.2⟩⟩
  · rw [(abreast_empty.run ms).2, run_unstale_of_lastArrival rfl]
  · have ha : Abreast (after .latestIssued before) (after .lastArrival before) :=
      (abreast_empty.run before).1
    have hresult := (h.mono hb).run.1
    refine ⟨hresult, ?_⟩
    simp only [Frame.ofPad, Editor.isPending, ha.text, ha.catalog, ha.inFlight, hresult]

/-- A failure and a value, each of the request made last, show alike under both policies. A value
that comes after a later request does not. -/
theorem run_abreast_of_resubmission :
    let ms : List Message := [.submit, .submit, .evalFinished ⟨2⟩ (.error (.status 500)),
      .evalFinished ⟨2⟩ (.ok (.string "B"))]
    let late : Message := .evalFinished ⟨1⟩ (.ok (.string "A"))
    Prompt ms ∧
      Frame.ofPad (after .latestIssued ms) = Frame.ofPad (after .lastArrival ms) ∧
      (after .latestIssued (ms ++ [late])).editor.result = some (.string "B") ∧
      (after .lastArrival (ms ++ [late])).editor.result = some (.string "A") := by
  intro ms late
  have h₂ : Prompt [.submit, .submit] :=
    (prompt_nil.snoc (by rintro t outcome ⟨⟩)).snoc (by rintro t outcome ⟨⟩)
  have h₃ : Prompt [.submit, .submit, .evalFinished ⟨2⟩ (.error (.status 500))] :=
    h₂.snoc (by rintro t outcome ⟨⟩; rfl)
  have h : Prompt ms := h₃.snoc (by rintro t outcome ⟨⟩; rfl)
  exact ⟨h, (((run_abreast ms).2.2 h).1 ms (List.prefix_refl ms)).2, rfl, rfl⟩

end Pad
end Scratchpad
