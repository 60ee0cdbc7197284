import Mathlib.Data.List.TakeWhile
import Scratchpad.Session
import Scratchpad.Proofs.Pad

/-!
# Laws of sessions and their runs

Every input of a session comes down to at most one message, which `Pad.reading?` reads off the pad;
the requests and the next pad are those of that message, whatever the device does. The log reports
the completions that are not applied, and no others. `Session.play` takes turns without end, and
`Session.run` is `play` up to the first `quit` with one redraw after it.
-/

namespace Scratchpad

/-- The message that an input comes down to, if it comes down to one. -/
def Pad.reading? (p : Pad) : Input → Option Message
  | .message m => some m
  | .command (.append line) => some (.textChanged (p.editor.text ++ line ++ "\n"))
  | .command .clear => some (.textChanged "")
  | .command .submit => some .submit
  | .command (.select name) => (p.catalog.find? name).map fun e => .selectionChanged e.value
  | .command .show => none
  | .command .quit => none

/-- The pad after an input. -/
def Pad.take (p : Pad) (i : Input) : Pad :=
  ((p.reading? i).map fun m => (p.update m).1).getD p

/-- The pad after some inputs. -/
def Pad.takeAll (p : Pad) (inputs : List Input) : Pad :=
  inputs.foldl take p

def Input.isSubmit : Input → Bool
  | .message .submit => true
  | .command .submit => true
  | _ => false

def Input.isShow : Input → Bool
  | .command .show => true
  | _ => false

theorem Input.eq_show_of_isShow {i : Input} (h : i.isShow = true) : i = .command .show := by
  cases i with
  | message m => cases h
  | command c => cases c <;> cases h; rfl

/-- A message, or a command that submits or changes the text. -/
theorem Pad.reading?_cases {p : Pad} {i : Input} {m : Message} (h : p.reading? i = some m) :
    i = .message m ∨ (i = .command .submit ∧ m = .submit) ∨
      ∃ c, i = .command c ∧ i.isSubmit = false ∧
        ∃ text, m = .textChanged text ∨ m = .selectionChanged text := by
  cases i with
  | message m' =>
    cases h
    exact .inl rfl
  | command c =>
    right
    cases c with
    | append line =>
      cases h
      exact .inr ⟨_, rfl, rfl, _, .inl rfl⟩
    | clear =>
      cases h
      exact .inr ⟨_, rfl, rfl, _, .inl rfl⟩
    | submit =>
      cases h
      exact .inl ⟨rfl, rfl⟩
    | select name =>
      obtain ⟨e, _, rfl⟩ := Option.map_eq_some_iff.mp h
      exact .inr ⟨_, rfl, rfl, _, .inr rfl⟩
    | «show» => cases h
    | quit => cases h

theorem Pad.reading?_eq_none_iff {p : Pad} {i : Input} : p.reading? i = none ↔
    i = .command .show ∨ i = .command .quit ∨
      ∃ name, i = .command (.select name) ∧ p.catalog.find? name = none := by
  cases i with
  | message m => simp [reading?]
  | command c => cases c <;> simp [reading?]

theorem Pad.isSubmit_of_reading? {p : Pad} {i : Input} {m : Message} (h : p.reading? i = some m) :
    m.isSubmit = i.isSubmit := by
  obtain rfl | ⟨rfl, rfl⟩ | ⟨c, rfl, hs, text, rfl | rfl⟩ := reading?_cases h
  · cases m <;> rfl
  · rfl
  · exact hs.symm
  · exact hs.symm

theorem Pad.isSubmit_of_reading?_eq_none {p : Pad} {i : Input} (h : p.reading? i = none) :
    i.isSubmit = false := by
  obtain rfl | rfl | ⟨name, rfl, _⟩ := reading?_eq_none_iff.mp h <;> rfl

/-- The ticket and the outcome of an input that completes an evaluation. -/
def Input.completion? : Input → Option (Ticket × Outcome Json)
  | .message m => m.completion?
  | .command _ => none

/-- The outcome of an input that completes a fetch. -/
def Input.load? : Input → Option (Outcome (List Entry))
  | .message m => m.load?
  | .command _ => none

theorem Pad.responses_of_reading? {p : Pad} {i : Input} {m : Message} (h : p.reading? i = some m) :
    m.completion? = i.completion? ∧ m.load? = i.load? := by
  obtain rfl | ⟨rfl, rfl⟩ | ⟨c, rfl, _, text, rfl | rfl⟩ := reading?_cases h <;> exact ⟨rfl, rfl⟩

theorem Pad.responses_of_reading?_eq_none {p : Pad} {i : Input} (h : p.reading? i = none) :
    i.completion? = none ∧ i.load? = none := by
  obtain rfl | rfl | ⟨name, rfl, _⟩ := reading?_eq_none_iff.mp h <;> exact ⟨rfl, rfl⟩

theorem Pad.take_inFlight (p : Pad) (i : Input) : (p.take i).editor.inFlight =
    (p.editor.inFlight.filter (· ∉ i.completion?.toList.map Prod.fst)) ++
      if i.isSubmit then [⟨p.editor.issued + 1⟩] else [] := by
  unfold take
  cases h : p.reading? i with
  | none =>
    rw [isSubmit_of_reading?_eq_none h, (responses_of_reading?_eq_none h).1]
    simp
  | some m =>
    rw [← isSubmit_of_reading? h, ← (responses_of_reading? h).1]
    exact p.update_inFlight m

theorem Pad.take_issued (p : Pad) (i : Input) :
    (p.take i).editor.issued = p.editor.issued + if i.isSubmit then 1 else 0 := by
  unfold take
  cases h : p.reading? i with
  | none => rw [isSubmit_of_reading?_eq_none h]; rfl
  | some m => rw [← isSubmit_of_reading? h]; exact p.update_issued m

theorem Pad.takeAll_issued (p : Pad) (inputs : List Input) :
    (p.takeAll inputs).editor.issued = p.editor.issued + inputs.countP Input.isSubmit := by
  induction inputs generalizing p with
  | nil => rfl
  | cons i rest ih =>
    change ((p.take i).takeAll rest).editor.issued = _
    rw [ih, take_issued, List.countP_cons]
    omega

namespace Trace

theorem append_def (a b : Trace) :
    a ++ b = ⟨a.requests ++ b.requests, a.draws + b.draws, a.log ++ b.log⟩ := rfl

@[simp] theorem nothing_append (a : Trace) : nothing ++ a = a := by
  simp only [append_def, nothing, List.nil_append, Nat.zero_add]

@[simp] theorem append_nothing (a : Trace) : a ++ nothing = a := by
  simp only [append_def, nothing, List.append_nil, Nat.add_zero]

theorem append_assoc (a b c : Trace) : a ++ b ++ c = a ++ (b ++ c) := by
  simp only [append_def, List.append_assoc, Nat.add_assoc]

@[simp] theorem append_requests (a b : Trace) : (a ++ b).requests = a.requests ++ b.requests := rfl

@[simp] theorem append_log (a b : Trace) : (a ++ b).log = a.log ++ b.log := rfl

end Trace

namespace Session
variable {σ : Type} (d : Device σ) (s : Session σ)

@[simp] theorem redraw_pad : (s.redraw d).1.pad = s.pad := rfl

@[simp] theorem redraw_queue : (s.redraw d).1.queue = s.queue := rfl

@[simp] theorem redraw_requests : (s.redraw d).2.requests = [] := rfl

@[simp] theorem close_pad : (s.close d).1.pad = s.pad := rfl

@[simp] theorem close_requests : (s.close d).2.requests = [] := rfl

theorem dispatch_pad (m : Message) : (s.dispatch d m).1.pad = (s.pad.update m).1 := by
  unfold dispatch
  cases h : (s.pad.update m).2.changed <;> simp [h]

theorem dispatch_queue (m : Message) : (s.dispatch d m).1.queue = s.queue := by
  unfold dispatch
  cases h : (s.pad.update m).2.changed <;> simp [h]

theorem dispatch_requests (m : Message) :
    (s.dispatch d m).2.requests = (s.pad.update m).2.requests := by
  unfold dispatch
  cases h : (s.pad.update m).2.changed <;> simp [h]

/-- Every input but `show` is its message, or nothing. -/
theorem apply_of_reading? {i : Input} {m : Message} (h : s.pad.reading? i = some m) :
    s.apply d i = s.dispatch d m := by
  cases i with
  | message m' => cases h; rfl
  | command c =>
    cases c with
    | select name =>
      obtain ⟨e, he, rfl⟩ := Option.map_eq_some_iff.mp h
      simp only [apply, applyCommand, he]
    | _ => cases h <;> rfl

theorem apply_select_of_unknown {name : String} (h : s.pad.catalog.find? name = none) :
    s.apply d (.command (.select name)) = (s, .logging (.noSuchExample name)) := by
  simp only [apply, applyCommand, h]

theorem apply_of_reading?_eq_none {i : Input} (h : s.pad.reading? i = none) :
    (s.apply d i).1.pad = s.pad ∧ (s.apply d i).1.queue = s.queue ∧
      (s.apply d i).2.requests = [] := by
  obtain rfl | rfl | ⟨name, rfl, hname⟩ := Pad.reading?_eq_none_iff.mp h
  · exact ⟨rfl, rfl, rfl⟩
  · exact ⟨rfl, rfl, rfl⟩
  · rw [apply_select_of_unknown d s hname]
    exact ⟨rfl, rfl, rfl⟩

theorem apply_eq_self {i : Input} (h : s.pad.reading? i = none) (hi : i.isShow = false) :
    (s.apply d i).1 = s := by
  obtain rfl | rfl | ⟨name, rfl, hname⟩ := Pad.reading?_eq_none_iff.mp h
  · cases hi
  · rfl
  · rw [apply_select_of_unknown d s hname]

theorem apply_pad (i : Input) : (s.apply d i).1.pad = s.pad.take i := by
  unfold Pad.take
  cases h : s.pad.reading? i with
  | none => exact (s.apply_of_reading?_eq_none d h).1
  | some m => rw [s.apply_of_reading? d h, dispatch_pad]; rfl

theorem apply_queue (i : Input) : (s.apply d i).1.queue = s.queue := by
  cases h : s.pad.reading? i with
  | none => exact (s.apply_of_reading?_eq_none d h).2.1
  | some m => rw [s.apply_of_reading? d h, dispatch_queue]

theorem apply_requests (i : Input) : (s.apply d i).2.requests =
    ((s.pad.reading? i).map fun m => (s.pad.update m).2.requests).getD [] := by
  cases h : s.pad.reading? i with
  | none => exact (s.apply_of_reading?_eq_none d h).2.2
  | some m => rw [s.apply_of_reading? d h, dispatch_requests]; rfl

/-- A submission issues one evaluation request, with the next ticket and the text as it stands, and
no other input issues any. -/
theorem apply_evaluations (i : Input) :
    (s.apply d i).2.requests.filterMap Request.evaluation? =
      if i.isSubmit then [(⟨s.pad.editor.issued + 1⟩, s.pad.editor.text)] else [] := by
  rw [apply_requests]
  cases h : s.pad.reading? i with
  | none => rw [Pad.isSubmit_of_reading?_eq_none h]; rfl
  | some m => rw [← Pad.isSubmit_of_reading? h]; exact s.pad.update_evaluations m

/-- But for a response, an input either leaves the phase of the catalog and fetches nothing, or it
starts the one load. -/
theorem apply_fetch {i : Input} (h : i.load? = none) :
    ((s.apply d i).1.pad.catalog.phase = s.pad.catalog.phase ∧
      (s.apply d i).2.requests.countP Request.isFetch = 0) ∨
    (s.pad.catalog.phase = .unmounted ∧ (s.apply d i).1.pad.catalog.phase = .loading ∧
      (s.apply d i).2.requests.countP Request.isFetch = 1) := by
  cases hr : s.pad.reading? i with
  | none =>
    obtain ⟨hp, _, hq⟩ := s.apply_of_reading?_eq_none d hr
    rw [hp, hq]
    exact .inl ⟨rfl, rfl⟩
  | some m =>
    rw [s.apply_of_reading? d hr, dispatch_pad, dispatch_requests]
    exact s.pad.update_fetch m ((Pad.responses_of_reading? hr).2.trans h)

theorem apply_load {i : Input} {outcome : Outcome (List Entry)} (h : i.load? = some outcome)
    (hp : s.pad.catalog.phase = .loading) :
    (s.apply d i).1.pad.catalog.phase.isSettled = true ∧
      (s.apply d i).2.requests.countP Request.isFetch = 0 := by
  cases i with
  | message m =>
    change (s.dispatch d m).1.pad.catalog.phase.isSettled = true ∧
      (s.dispatch d m).2.requests.countP Request.isFetch = 0
    rw [dispatch_pad, dispatch_requests]
    exact s.pad.update_load m h hp
  | command c => cases h

end Session

/-! ## Reports -/

/-- What is logged of a completion; one that is applied is not worth a report. -/
def Disposition.report? (t : Ticket) : Disposition → Option Event
  | .applied => none
  | .stale latest => some (.staleResponse t latest)
  | .failed f => some (.evalFailed t f)

/-- The ticket that an input completes, and what becomes of that completion. -/
def Pad.disposition? (p : Pad) : Input → Option (Ticket × Disposition)
  | .message (.evalFinished t outcome) => some (t, (p.editor.finish t outcome).2)
  | _ => none

theorem Pad.disposition?_of_reading? {p : Pad} {i : Input} {m : Message}
    (h : p.reading? i = some m) : p.disposition? (.message m) = p.disposition? i := by
  obtain rfl | ⟨rfl, rfl⟩ | ⟨c, rfl, _, text, rfl | rfl⟩ := reading?_cases h <;> rfl

namespace Event

def isStale : Event → Bool
  | .staleResponse .. => true
  | _ => false

def isEvalFailed : Event → Bool
  | .evalFailed .. => true
  | _ => false

def isReport (e : Event) : Bool :=
  e.isStale || e.isEvalFailed

theorem ofRequest_isReport (r : Request) : (ofRequest r).isReport = false := by
  cases r <;> rfl

end Event

theorem Pad.disposition?_fst (p : Pad) (i : Input) :
    (p.disposition? i).map Prod.fst = i.completion?.map Prod.fst := by
  cases i with
  | message m => cases m <;> rfl
  | command c => rfl

theorem Pad.update_reports (p : Pad) (m : Message) :
    (((p.update m).2.note.map Event.ofNote).toList.filter Event.isReport) =
      ((p.disposition? (.message m)).bind fun c => c.2.report? c.1).toList := by
  cases m with
  | evalFinished t outcome =>
    simp only [update, disposition?, Option.bind_some]
    cases (p.editor.finish t outcome).2 <;> rfl
  | catalogMounted =>
    simp only [update, disposition?]
    split <;> rfl
  | catalogLoaded outcome =>
    simp only [update, disposition?]
    split <;> rfl
  | _ => rfl

namespace Session
variable {σ : Type} (d : Device σ) (s : Session σ)

theorem redraw_reports : (s.redraw d).2.log.filter Event.isReport = [] := by
  unfold redraw
  cases h : (s.screen.draw d (.ofPad s.pad)).2 with
  | none => simp [h]
  | some error => simp [h, Event.isReport, Event.isStale, Event.isEvalFailed]

theorem dispatch_reports (m : Message) : (s.dispatch d m).2.log.filter Event.isReport =
    ((s.pad.disposition? (.message m)).bind fun c => c.2.report? c.1).toList := by
  have hq : ((s.pad.update m).2.requests.map Event.ofRequest).filter Event.isReport = [] := by
    simp [Event.ofRequest_isReport]
  rw [← s.pad.update_reports m]
  unfold dispatch
  cases h : (s.pad.update m).2.changed <;>
    simp [h, hq, redraw_reports, List.filter_append]

/-- An input is reported exactly if it completes an evaluation to no avail. -/
theorem apply_reports (i : Input) : (s.apply d i).2.log.filter Event.isReport =
    ((s.pad.disposition? i).bind fun c => c.2.report? c.1).toList := by
  cases hr : s.pad.reading? i with
  | some m =>
    rw [s.apply_of_reading? d hr, dispatch_reports, Pad.disposition?_of_reading? hr]
  | none =>
    obtain rfl | rfl | ⟨name, rfl, hname⟩ := Pad.reading?_eq_none_iff.mp hr
    · exact redraw_reports d { s with screen := s.screen.invalidate }
    · rfl
    · rw [apply_select_of_unknown d s hname]
      rfl

/-! ## Runs -/

/-- Takes one turn. The `quit` command changes nothing. -/
def turn (d : Device σ) (s : Session σ) : Turn → Session σ × Trace
  | .tick => s.redraw d
  | .input i => s.apply d i

/-- Takes all turns. -/
def play (d : Device σ) (s : Session σ) : List Turn → Session σ × Trace
  | [] => (s, .nothing)
  | t :: rest =>
    let (s, here) := s.turn d t
    let (s, trace) := play d s rest
    (s, here ++ trace)

def Turn.input? : Turn → Option Input
  | .tick => none
  | .input i => some i

def Turn.isQuit : Turn → Bool
  | .tick => false
  | .input i => i.isQuit

/-- The inputs of some turns. -/
def Turn.inputs (turns : List Turn) : List Input :=
  turns.filterMap input?

/-- The turns before the first `quit`. -/
def Turn.beforeQuit (turns : List Turn) : List Turn :=
  turns.takeWhile (!·.isQuit)

theorem Turn.beforeQuit_eq_self {turns : List Turn} (h : ¬ turns.any isQuit = true) :
    beforeQuit turns = turns := by
  rw [beforeQuit, List.takeWhile_eq_self_iff]
  simpa using h

theorem Turn.inputs_beforeQuit (turns : List Turn) :
    inputs (beforeQuit turns) = (inputs turns).takeWhile (!·.isQuit) := by
  induction turns with
  | nil => rfl
  | cons t rest ih =>
    cases t with
    | tick => exact ih
    | input i =>
      cases hi : i.isQuit with
      | true => simp [beforeQuit, inputs, isQuit, input?, hi]
      | false =>
        have ht : beforeQuit (.input i :: rest) = .input i :: beforeQuit rest := by
          simp [beforeQuit, isQuit, hi]
        rw [ht]
        simp only [inputs, List.filterMap_cons, input?, List.takeWhile_cons, hi, Bool.not_false,
          if_true]
        exact congrArg (i :: ·) ih

theorem turn_pad (t : Turn) : (s.turn d t).1.pad = (t.input?.map s.pad.take).getD s.pad := by
  cases t with
  | tick => rfl
  | input i => exact s.apply_pad d i

/-- The pad after a run depends on its inputs alone, not on the ticks or the device. -/
theorem play_pad (turns : List Turn) :
    (s.play d turns).1.pad = s.pad.takeAll (Turn.inputs turns) := by
  induction turns generalizing s with
  | nil => rfl
  | cons t rest ih =>
    simp only [play, ih, turn_pad]
    cases t <;> rfl

theorem run_cons_of_quit {t : Turn} (rest : List Turn) (h : t.isQuit = true) :
    s.run d (t :: rest) = ((s.close d).1, (s.close d).2, true) := by
  cases t with
  | tick => cases h
  | input i =>
    have hi : i.isQuit = true := h
    simp only [run, hi, if_true]

theorem run_cons_of_not_quit {t : Turn} (rest : List Turn) (h : t.isQuit = false) :
    s.run d (t :: rest) = (((s.turn d t).1.run d rest).1,
      (s.turn d t).2 ++ ((s.turn d t).1.run d rest).2.1, ((s.turn d t).1.run d rest).2.2) := by
  cases t with
  | tick => rfl
  | input i =>
    have hi : i.isQuit = false := h
    simp only [run, hi, Bool.false_eq_true, if_false]
    rfl

/-- A running session takes the turns before the first `quit`, if there is one, and is closed
then. -/
theorem run_eq_play (turns : List Turn) : s.run d turns =
    if turns.any Turn.isQuit then
      (((s.play d (Turn.beforeQuit turns)).1.close d).1,
        (s.play d (Turn.beforeQuit turns)).2 ++ ((s.play d (Turn.beforeQuit turns)).1.close d).2,
        true)
    else ((s.play d turns).1, (s.play d turns).2, false) := by
  induction turns generalizing s with
  | nil => rfl
  | cons t rest ih =>
    cases ht : t.isQuit with
    | true =>
      rw [run_cons_of_quit d s rest ht]
      simp [Turn.beforeQuit, ht, play]
    | false =>
      rw [run_cons_of_not_quit d s rest ht, ih, List.any_cons, ht, Bool.false_or]
      split
      · simp [Turn.beforeQuit, ht, play, Trace.append_assoc]
      · rfl

end Session
end Scratchpad
