import Scratchpad.Proofs.Pad

/-!
# Evaluations and edits keep apart

A pad has two halves. The books are what its editor keeps of evaluations, the desk is the text with
the catalog. A submission or a completion changes the books alone, in a way that does not depend on
the desk, although it sends the text away; every other message changes the desk alone, whatever the
books are. So either half can be followed by itself, and two streams of messages may be interleaved
in any way.
-/

namespace Scratchpad

/-- Is the message about an evaluation? All others edit the text or concern the catalog. -/
def Message.isEvaluation : Message → Bool
  | .submit | .evalFinished .. => true
  | _ => false

/-- What an editor keeps of evaluations. -/
structure Books where
  result : Option Json
  policy : Policy
  issued : Nat
  inFlight : List Ticket

/-- What a user works on. -/
structure Desk where
  text : String
  catalog : Catalog

namespace Pad

def books (p : Pad) : Books :=
  ⟨p.editor.result, p.editor.policy, p.editor.issued, p.editor.inFlight⟩

def desk (p : Pad) : Desk :=
  ⟨p.editor.text, p.catalog⟩

/-- The two halves are all of a pad. -/
theorem eq_of_books_of_desk {p q : Pad} (hb : p.books = q.books) (hd : p.desk = q.desk) :
    p = q := by
  obtain ⟨⟨text, result, policy, issued, inFlight⟩, catalog⟩ := p
  obtain ⟨⟨text', result', policy', issued', inFlight'⟩, catalog'⟩ := q
  simp only [books, desk, Books.mk.injEq, Desk.mk.injEq] at hb hd
  obtain ⟨rfl, rfl, rfl, rfl⟩ := hb
  obtain ⟨rfl, rfl⟩ := hd
  rfl

variable (p q : Pad) {m : Message}

/-! ## One message -/

theorem update_desk_of_evaluation (hm : m.isEvaluation = true) : (p.update m).1.desk = p.desk := by
  rw [desk, update_editor, update_catalog]
  cases m with
  | submit => rfl
  | evalFinished t outcome => exact congrArg (Desk.mk · _) (p.editor.finish_text t outcome)
  | _ => cases hm

theorem update_books_of_edit (hm : m.isEvaluation = false) : (p.update m).1.books = p.books := by
  rw [books, update_editor]
  cases m with
  | submit => cases hm
  | evalFinished t outcome => cases hm
  | catalogLoaded outcome => dsimp only; cases p.catalog.chosen? outcome <;> rfl
  | _ => rfl

/-- What is settled does not depend on the text. -/
theorem finish_books {e e' : Editor} {c c' : Catalog} (h : books ⟨e, c⟩ = books ⟨e', c'⟩)
    (t : Ticket) (outcome : Outcome Json) :
    books ⟨(e.finish t outcome).1, c⟩ = books ⟨(e'.finish t outcome).1, c'⟩ := by
  simp only [books, Books.mk.injEq] at h
  obtain ⟨hresult, hpolicy, hissued, hinFlight⟩ := h
  have hsuperseded : e.supersededBy? t = e'.supersededBy? t := by
    simp only [Editor.supersededBy?, Editor.latest?, hpolicy, hissued]
  simp only [books, Books.mk.injEq, Editor.finish_policy, Editor.finish_issued,
    Editor.finish_inFlight, hpolicy, hissued, hinFlight, and_true]
  cases outcome with
  | error f => exact hresult
  | ok v =>
    cases hs : e.supersededBy? t with
    | none =>
      rw [e.finish_ok_of_current t v hs, e'.finish_ok_of_current t v (hsuperseded.symm.trans hs)]
    | some latest =>
      rw [e.finish_ok_of_superseded t v latest hs,
        e'.finish_ok_of_superseded t v latest (hsuperseded.symm.trans hs)]
      exact hresult

theorem update_books_congr (hm : m.isEvaluation = true) (h : p.books = q.books) :
    (p.update m).1.books = (q.update m).1.books := by
  cases m with
  | submit =>
    simp only [books, Books.mk.injEq] at h
    simp only [books, update, Editor.begin, h]
  | evalFinished t outcome => exact finish_books h t outcome
  | _ => cases hm

theorem update_desk_congr (hm : m.isEvaluation = false) (h : p.desk = q.desk) :
    (p.update m).1.desk = (q.update m).1.desk := by
  simp only [desk, Desk.mk.injEq] at h
  obtain ⟨htext, hcatalog⟩ := h
  simp only [desk, update_editor, update_catalog, hcatalog]
  cases m with
  | submit => cases hm
  | evalFinished t outcome => cases hm
  | catalogLoaded outcome =>
    dsimp only
    cases q.catalog.chosen? outcome <;> simp [htext, Editor.setText]
  | catalogMounted => simp [htext]
  | _ => rfl

/-! ## Runs -/

variable (ms : List Message)

theorem run_books : (p.run ms).1.books = (p.run (ms.filter (·.isEvaluation))).1.books := by
  induction ms using List.reverseRecOn with
  | nil => rfl
  | append_singleton ms m ih =>
    rw [run_snoc, List.filter_append]
    cases hm : m.isEvaluation with
    | true =>
      rw [List.filter_cons_of_pos hm, List.filter_nil, run_snoc]
      exact update_books_congr _ _ hm ih
    | false =>
      rw [List.filter_cons_of_neg (by simp [hm]), List.filter_nil, List.append_nil]
      exact (update_books_of_edit _ hm).trans ih

theorem run_desk : (p.run ms).1.desk = (p.run (ms.filter (!·.isEvaluation))).1.desk := by
  induction ms using List.reverseRecOn with
  | nil => rfl
  | append_singleton ms m ih =>
    rw [run_snoc, List.filter_append]
    cases hm : m.isEvaluation with
    | true =>
      rw [List.filter_cons_of_neg (by simp [hm]), List.filter_nil, List.append_nil]
      exact (update_desk_of_evaluation _ hm).trans ih
    | false =>
      rw [List.filter_cons_of_pos (by simp [hm]), List.filter_nil, run_snoc]
      exact update_desk_congr _ _ hm ih

/-- After any messages to the empty pad the books are as after the submissions and completions alone,
and the desk is as after the other messages alone. Hence the pad does not depend on how the two
streams are interleaved. -/
theorem after_separate (policy : Policy) (ms : List Message) :
    (after policy ms).books = (after policy (ms.filter (·.isEvaluation))).books ∧
    tickets policy ms = tickets policy (ms.filter (·.isEvaluation)) ∧
    (after policy ms).desk = (after policy (ms.filter (!·.isEvaluation))).desk ∧
    ∀ ms' : List Message, ms'.filter (·.isEvaluation) = ms.filter (·.isEvaluation) →
      ms'.filter (!·.isEvaluation) = ms.filter (!·.isEvaluation) →
      after policy ms' = after policy ms := by
  have hbooks : (after policy ms).books = (after policy (ms.filter (·.isEvaluation))).books :=
    run_books (empty policy) ms
  have hdesk : (after policy ms).desk = (after policy (ms.filter (!·.isEvaluation))).desk :=
    run_desk (empty policy) ms
  refine ⟨hbooks, ?_, hdesk, fun ms' he hd => ?_⟩
  · rw [tickets_eq_upTo, tickets_eq_upTo]
    exact congrArg Ticket.upTo (congrArg Books.issued hbooks)
  · apply eq_of_books_of_desk
    · rw [hbooks, ← he]
      exact run_books (empty policy) ms'
    · rw [hdesk, ← hd]
      exact run_desk (empty policy) ms'

/-- A text that is typed while a request is under way may as well be typed before it is made. -/
theorem after_separate_of_typing :
    after .latestIssued [.submit, .textChanged "x", .evalFinished ⟨1⟩ (.ok (.bool true))] =
      after .latestIssued [.textChanged "x", .submit, .evalFinished ⟨1⟩ (.ok (.bool true))] :=
  (after_separate .latestIssued
    [.textChanged "x", .submit, .evalFinished ⟨1⟩ (.ok (.bool true))]).2.2.2
    [.submit, .textChanged "x", .evalFinished ⟨1⟩ (.ok (.bool true))] rfl rfl

end Pad
end Scratchpad
