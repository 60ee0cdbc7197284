import Mathlib.Data.List.Induction
import Scratchpad.Pad
import Scratchpad.Proofs.Editor

/-!
# Laws of the pad and its runs

Four equations say all that `Pad.update` does: to the editor, to the catalog, which requests it
makes, and what it notes. `Pad.run` applies messages in order and collects the transitions. The
tickets of the evaluation requests of a run from the empty pad are numbered from one without a gap,
so the last of them is the latest ticket of the editor.
-/

namespace Scratchpad

def Message.isSubmit : Message → Bool
  | .submit => true
  | _ => false

def Message.isMount : Message → Bool
  | .catalogMounted => true
  | _ => false

/-- The ticket and the outcome of a completed evaluation. -/
def Message.completion? : Message → Option (Ticket × Outcome Json)
  | .evalFinished t outcome => some (t, outcome)
  | _ => none

/-- The outcome of a completed fetch. -/
def Message.load? : Message → Option (Outcome (List Entry))
  | .catalogLoaded outcome => some outcome
  | _ => none

def Request.evaluation? : Request → Option (Ticket × String)
  | .evaluate t text => some (t, text)
  | .fetchCatalog => none

def Request.isFetch : Request → Bool
  | .evaluate .. => false
  | .fetchCatalog => true

/-- The load is over. -/
def Phase.isSettled : Phase → Bool
  | .unmounted => false
  | .loading => false
  | .loaded => true
  | .failed => true

/-- The text that a catalog response installs. -/
def Catalog.chosen? (c : Catalog) (outcome : Outcome (List Entry)) : Option String :=
  match (c.finishLoad outcome).2 with
  | .loaded chosen => chosen
  | _ => none

namespace Pad
variable (p : Pad) (m : Message)

theorem update_editor : (p.update m).1.editor =
    match m with
    | .textChanged text => (p.editor.setText text).1
    | .submit => p.editor.begin.1
    | .evalFinished t outcome => (p.editor.finish t outcome).1
    | .catalogMounted => p.editor
    | .catalogLoaded outcome =>
      (p.catalog.chosen? outcome).elim p.editor fun value => (p.editor.setText value).1
    | .selectionChanged value => (p.editor.setText value).1 := by
  cases m with
  | catalogMounted => rcases hc : p.catalog with _ | _ | _ | _ <;> simp [update, hc, Catalog.mount]
  | catalogLoaded outcome =>
    simp only [update, Catalog.chosen?]
    split <;> simp [*, deliver]
  | _ => rfl

theorem update_catalog : (p.update m).1.catalog =
    match m with
    | .catalogMounted => p.catalog.mount.1
    | .catalogLoaded outcome => (p.catalog.finishLoad outcome).1
    | .selectionChanged value => p.catalog.select value
    | _ => p.catalog := by
  cases m with
  | catalogMounted => rcases hc : p.catalog with _ | _ | _ | _ <;> simp [update, hc, Catalog.mount]
  | catalogLoaded outcome =>
    simp only [update]
    split <;> rfl
  | _ => rfl

theorem update_requests : (p.update m).2.requests =
    match m with
    | .submit => [.evaluate ⟨p.editor.issued + 1⟩ p.editor.text]
    | .catalogMounted => if p.catalog.mount.2 then [.fetchCatalog] else []
    | _ => [] := by
  cases m with
  | catalogMounted =>
    rcases hc : p.catalog with _ | _ | _ | _ <;>
      simp [update, hc, Catalog.mount, Transition.asking, Transition.noted]
  | catalogLoaded outcome =>
    simp only [update]
    split <;> rfl
  | evalFinished t outcome =>
    simp only [update]
    split <;> rfl
  | _ => rfl

/-- A transition that reports no change leaves the whole pad as it was. -/
theorem update_eq_self_of_unchanged (h : (p.update m).2.changed = false) : (p.update m).1 = p := by
  cases m with
  | textChanged text =>
    have he : (p.editor.setText text).1 = p.editor :=
      p.editor.setText_eq_self_of_unchanged text h
    simp only [update, he]
  | submit => cases h
  | evalFinished t outcome =>
    simp only [update] at h
    split at h <;> cases h
  | catalogMounted =>
    rcases hc : p.catalog with _ | _ | _ | _ <;> simp_all [update, Catalog.mount, Transition.asking]
  | catalogLoaded outcome =>
    cases hc : p.catalog with
    | loading =>
      obtain f | (_ | ⟨e, rest⟩) := outcome <;>
        simp [update, hc, Catalog.finishLoad, Transition.quiet, Transition.noted] at h
    | _ =>
      have hi : p.catalog.finishLoad outcome = (p.catalog, .ignored) := by rw [hc]; rfl
      simp only [update, hi]
  | selectionChanged value => cases h

@[simp] theorem update_policy : (p.update m).1.editor.policy = p.editor.policy := by
  rw [update_editor]
  cases m with
  | catalogLoaded outcome => dsimp only; cases p.catalog.chosen? outcome <;> rfl
  | evalFinished t outcome => exact p.editor.finish_policy t outcome
  | _ => rfl

theorem update_issued :
    (p.update m).1.editor.issued = p.editor.issued + if m.isSubmit then 1 else 0 := by
  rw [update_editor]
  cases m with
  | catalogLoaded outcome => dsimp only; cases p.catalog.chosen? outcome <;> rfl
  | evalFinished t outcome => exact p.editor.finish_issued t outcome
  | _ => rfl

theorem update_result_of_not_completion (h : m.completion? = none) :
    (p.update m).1.editor.result = p.editor.result := by
  rw [update_editor]
  cases m with
  | catalogLoaded outcome => dsimp only; cases p.catalog.chosen? outcome <;> rfl
  | evalFinished t outcome => cases h
  | _ => rfl

/-- Whatever is noted leaves the result as it was. -/
theorem update_result_of_noted {n : Note} (h : (p.update m).2.note = some n) :
    (p.update m).1.editor.result = p.editor.result := by
  cases hm : m.completion? with
  | none => exact p.update_result_of_not_completion m hm
  | some c =>
    cases m with
    | evalFinished t outcome =>
      rw [update_editor]
      apply Editor.finish_result_of_not_applied
      intro ha
      simp [update, ha, Transition.quiet] at h
    | _ => cases hm

theorem update_evaluations : (p.update m).2.requests.filterMap Request.evaluation? =
    if m.isSubmit then [(⟨p.editor.issued + 1⟩, p.editor.text)] else [] := by
  rw [update_requests]
  cases m with
  | catalogMounted => cases p.catalog.mount.2 <;> rfl
  | _ => rfl

theorem update_inFlight : (p.update m).1.editor.inFlight =
    (p.editor.inFlight.filter (· ∉ m.completion?.toList.map Prod.fst)) ++
      if m.isSubmit then [⟨p.editor.issued + 1⟩] else [] := by
  rw [update_editor]
  cases m with
  | catalogLoaded outcome =>
    dsimp only
    cases p.catalog.chosen? outcome <;>
      simp [Message.completion?, Message.isSubmit, Editor.setText]
  | evalFinished t outcome => simp [Message.completion?, Message.isSubmit]
  | _ => simp [Message.completion?, Message.isSubmit, Editor.setText, Editor.begin]

/-- The phase moves by a mount where there was none, and by a response where one is awaited. -/
theorem update_phase : (p.update m).1.catalog.phase =
    match p.catalog.phase, m.load? with
    | .unmounted, _ => if m.isMount then .loading else .unmounted
    | .loading, some (.ok _) => .loaded
    | .loading, some (.error _) => .failed
    | phase, _ => phase := by
  rw [update_catalog]
  cases m with
  | catalogLoaded outcome =>
    rcases p.catalog with _ | _ | ⟨items, selected⟩ | _ <;> try rfl
    obtain f | (_ | ⟨e, rest⟩) := outcome <;> rfl
  | _ => rcases p.catalog with _ | _ | ⟨items, selected⟩ | _ <;> rfl

theorem update_fetches : (p.update m).2.requests.countP Request.isFetch =
    if m.isMount = true ∧ p.catalog.phase = .unmounted then 1 else 0 := by
  rw [update_requests]
  cases m with
  | catalogMounted => rcases p.catalog with _ | _ | ⟨items, selected⟩ | _ <;> rfl
  | _ => rfl

/-- A fetch is requested when the catalog starts to load, and at no other time; but for that, only a
response changes the phase. -/
theorem update_fetch (h : m.load? = none) :
    ((p.update m).1.catalog.phase = p.catalog.phase ∧
      (p.update m).2.requests.countP Request.isFetch = 0) ∨
    (p.catalog.phase = .unmounted ∧ (p.update m).1.catalog.phase = .loading ∧
      (p.update m).2.requests.countP Request.isFetch = 1) := by
  rw [update_phase, update_fetches, h]
  cases m.isMount <;> cases p.catalog.phase <;> simp

/-- A response ends the loading. -/
theorem update_load {outcome : Outcome (List Entry)} (h : m.load? = some outcome)
    (hp : p.catalog.phase = .loading) :
    (p.update m).1.catalog.phase.isSettled = true ∧
      (p.update m).2.requests.countP Request.isFetch = 0 := by
  rw [update_phase, update_fetches, h, hp]
  obtain f | items := outcome <;> exact ⟨rfl, if_neg (by simp)⟩

/-! ## Runs -/

/-- Applies messages in order. -/
def run (p : Pad) : List Message → Pad × List Transition
  | [] => (p, [])
  | m :: rest =>
    let (p, t) := p.update m
    let (p, ts) := run p rest
    (p, t :: ts)

theorem run_append (ms ms' : List Message) :
    p.run (ms ++ ms') =
      (((p.run ms).1.run ms').1, (p.run ms).2 ++ ((p.run ms).1.run ms').2) := by
  induction ms generalizing p with
  | nil => rfl
  | cons m ms ih => simp only [List.cons_append, run, ih]

theorem run_snoc (ms : List Message) :
    p.run (ms ++ [m]) =
      (((p.run ms).1.update m).1, (p.run ms).2 ++ [((p.run ms).1.update m).2]) := by
  rw [run_append]
  rfl

@[simp] theorem run_policy (ms : List Message) :
    (p.run ms).1.editor.policy = p.editor.policy := by
  induction ms using List.reverseRecOn with
  | nil => rfl
  | append_singleton ms m ih => rw [run_snoc, update_policy, ih]

theorem issued_le_run (ms : List Message) : p.editor.issued ≤ (p.run ms).1.editor.issued := by
  induction ms using List.reverseRecOn with
  | nil => exact Nat.le_refl _
  | append_singleton ms m ih =>
    rw [run_snoc, update_issued]
    exact Nat.le_trans ih (Nat.le_add_right _ _)

/-- The pad after some messages to the empty pad. -/
def after (policy : Policy) (ms : List Message) : Pad :=
  ((empty policy).run ms).1

theorem after_snoc (policy : Policy) (ms : List Message) :
    after policy (ms ++ [m]) = ((after policy ms).update m).1 := by
  rw [after, run_snoc, after]

/-- The requests that a run makes, in order. -/
def requests (ms : List Message) : List Request :=
  (p.run ms).2.flatMap (·.requests)

theorem requests_snoc (ms : List Message) :
    p.requests (ms ++ [m]) = p.requests ms ++ ((p.run ms).1.update m).2.requests := by
  simp only [requests, run_snoc, List.flatMap_append, List.flatMap_singleton]

end Pad

/-- The tickets that the submissions among some messages take, from the empty pad on. -/
def Pad.tickets (policy : Policy) (ms : List Message) : List Ticket :=
  (((Pad.empty policy).requests ms).filterMap Request.evaluation?).map Prod.fst

namespace Pad
variable (policy : Policy) (ms : List Message)

theorem tickets_snoc (m : Message) : tickets policy (ms ++ [m]) =
    tickets policy ms ++
      if m.isSubmit then [⟨((empty policy).run ms).1.editor.issued + 1⟩] else [] := by
  simp only [tickets, requests_snoc, List.filterMap_append, List.map_append, update_evaluations]
  split <;> rfl

theorem tickets_eq_upTo :
    tickets policy ms = Ticket.upTo ((empty policy).run ms).1.editor.issued := by
  induction ms using List.reverseRecOn with
  | nil => rfl
  | append_singleton ms m ih =>
    rw [tickets_snoc, run_snoc, update_issued, ih]
    cases m.isSubmit with
    | false => simp
    | true => exact (Ticket.upTo_succ _).symm

theorem mem_tickets_iff (t : Ticket) :
    t ∈ tickets policy ms ↔ 0 < t.index ∧ t.index ≤ ((empty policy).run ms).1.editor.issued := by
  rw [tickets_eq_upTo, Ticket.mem_upTo]

theorem getLast?_tickets :
    (tickets policy ms).getLast? = ((empty policy).run ms).1.editor.latest? := by
  rw [tickets_eq_upTo, Editor.latest?]
  cases h : ((empty policy).run ms).1.editor.issued with
  | zero => rfl
  | succ n => simp [Ticket.upTo_succ]

end Pad
end Scratchpad
