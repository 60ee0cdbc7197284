import Scratchpad.Exchange
import Scratchpad.Proofs.Session

/-!
# Histories of exchanges

A `Move` is anything that can happen to an exchange. It is honest if nobody but the exchange itself
makes the completion of a request. A `Record` keeps beside an exchange what led to it: the trace,
the inputs that were applied, each with the pad that it met, and the replies that reached a request.
-/

namespace Scratchpad
namespace Exchange

/-- A reply of `none` is dropped. -/
inductive Move
  | dispatch (m : Message)
  | redraw
  | send (i : Input)
  | settle
  | replyEval (n : Nat) (reply : Option (Outcome Json))
  | replyFetch (n : Nat) (reply : Option (Outcome (List Entry)))

end Exchange

/-- It completes neither an evaluation nor a fetch. -/
def Input.isPlain (i : Input) : Bool :=
  i.completion?.isNone && i.load?.isNone

theorem Input.completion?_of_isPlain {i : Input} (h : i.isPlain = true) : i.completion? = none := by
  simp only [isPlain, Bool.and_eq_true, Option.isNone_iff_eq_none] at h
  exact h.1

theorem Input.load?_of_isPlain {i : Input} (h : i.isPlain = true) : i.load? = none := by
  simp only [isPlain, Bool.and_eq_true, Option.isNone_iff_eq_none] at h
  exact h.2

namespace Exchange

def Move.isHonest : Move → Bool
  | .dispatch m => (Input.message m).isPlain
  | .send i => i.isPlain
  | _ => true

variable {σ : Type} (x : Exchange σ)

/-- The tickets whose requests wait. -/
def waiting : List Ticket :=
  x.evals.filterMap id

/-- The completions of evaluations in the queue. -/
def completions : List (Ticket × Outcome Json) :=
  x.session.queue.filterMap Input.completion?

/-- The completions of fetches in the queue. -/
def loads : List (Outcome (List Entry)) :=
  x.session.queue.filterMap Input.load?

/-! ## Requests -/

theorem foldl_park (requests : List Request) : requests.foldl park x =
    { session := x.session
      evals := x.evals ++ (requests.filterMap Request.evaluation?).map fun e => some e.1
      fetches := x.fetches ++ List.replicate (requests.countP Request.isFetch) true } := by
  induction requests generalizing x with
  | nil => simp
  | cons r rest ih =>
    rw [List.foldl_cons, ih]
    cases r with
    | evaluate t text => simp [park, Request.evaluation?, Request.isFetch]
    | fetchCatalog =>
      have he : Request.evaluation? .fetchCatalog = none := rfl
      have hf : Request.isFetch .fetchCatalog = true := rfl
      simp [park, he, hf, List.replicate_succ]

variable (s : Session σ) (trace : Trace)

@[simp] theorem resume_session : (x.resume s trace).session = s := by
  rw [resume, foldl_park]

theorem resume_evals : (x.resume s trace).evals =
    x.evals ++ (trace.requests.filterMap Request.evaluation?).map fun e => some e.1 := by
  rw [resume, foldl_park]

theorem resume_fetches : (x.resume s trace).fetches =
    x.fetches ++ List.replicate (trace.requests.countP Request.isFetch) true := by
  rw [resume, foldl_park]

theorem resume_of_no_requests (h : trace.requests = []) :
    x.resume s trace = { x with session := s } := by
  rw [resume, h]
  rfl

/-! ## Replies -/

variable {x} {y : Exchange σ} {n : Nat}

theorem answerEval?_eq_some_iff {outcome : Outcome Json} :
    x.answerEval? n outcome = some y ↔ ∃ k t, n = k + 1 ∧ x.evals[k]? = some (some t) ∧
      y = enqueue { x with evals := x.evals.set k none } (.message (.evalFinished t outcome)) := by
  cases n with
  | zero => simp [answerEval?]
  | succ k =>
    simp only [answerEval?, Nat.add_one_ne_zero, if_false, Nat.add_sub_cancel]
    cases h : x.evals[k]? with
    | none => simp [h]
    | some e =>
      cases e with
      | none => simp [h]
      | some t => simp [h, eq_comm]

theorem answerFetch?_eq_some_iff {outcome : Outcome (List Entry)} :
    x.answerFetch? n outcome = some y ↔ ∃ k, n = k + 1 ∧ x.fetches[k]? = some true ∧
      y = enqueue { x with fetches := x.fetches.set k false }
        (.message (.catalogLoaded outcome)) := by
  cases n with
  | zero => simp [answerFetch?]
  | succ k =>
    simp only [answerFetch?, Nat.add_one_ne_zero, if_false, Nat.add_sub_cancel]
    cases h : x.fetches[k]? with
    | none => simp [h]
    | some waits => cases waits <;> simp [h, eq_comm]

end Exchange

structure Record (σ : Type) where
  exchange : Exchange σ
  trace : Trace
  inputs : List (Pad × Input)
  replies : List (Nat × Option (Outcome Json))
  loads : List (Nat × Option (Outcome (List Entry)))

namespace Record
variable {σ : Type}

def start (policy : Policy) (device : σ) : Record σ :=
  ⟨.start policy device, .nothing, [], [], []⟩

def pad (r : Record σ) : Pad :=
  r.exchange.session.pad

def queue (r : Record σ) : List Input :=
  r.exchange.session.queue

/-- How many submissions were applied. -/
def submits (r : Record σ) : Nat :=
  r.inputs.countP (·.2.isSubmit)

/-- The tickets of the evaluation requests that were made. -/
def asked (r : Record σ) : List Ticket :=
  (r.trace.requests.filterMap Request.evaluation?).map Prod.fst

/-- How many fetches were requested. -/
def fetches (r : Record σ) : Nat :=
  r.trace.requests.countP Request.isFetch

/-- The completions of evaluations that were applied. -/
def settled (r : Record σ) : List (Ticket × Outcome Json) :=
  r.inputs.filterMap (·.2.completion?)

/-- What became of the completions that were applied. -/
def dispositions (r : Record σ) : List (Ticket × Disposition) :=
  r.inputs.filterMap fun a => a.1.disposition? a.2

/-- The completions of fetches that were applied. -/
def loaded (r : Record σ) : List (Outcome (List Entry)) :=
  r.inputs.filterMap (·.2.load?)

/-- Goes on with an exchange after an input was applied. -/
def goOn (r : Record σ) (i : Input) (x : Exchange σ) (trace : Trace) : Record σ :=
  { r with exchange := x, trace := r.trace ++ trace, inputs := r.inputs ++ [(r.pad, i)] }

def move (d : Device σ) (r : Record σ) : Exchange.Move → Record σ
  | .dispatch m =>
    let (x, trace) := r.exchange.dispatch d m
    r.goOn (.message m) x trace
  | .redraw =>
    let (x, trace) := r.exchange.redraw d
    { r with exchange := x, trace := r.trace ++ trace }
  | .send i => { r with exchange := r.exchange.enqueue i }
  | .settle =>
    let (x, trace, _) := r.exchange.settle d
    match r.queue with
    | [] => { r with exchange := x, trace := r.trace ++ trace }
    | i :: _ => r.goOn i x trace
  | .replyEval n reply =>
    match r.exchange.answerEval? n (reply.getD Exchange.noReply) with
    | none => r
    | some x => { r with exchange := x, replies := r.replies ++ [(n, reply)] }
  | .replyFetch n reply =>
    match r.exchange.answerFetch? n (reply.getD Exchange.noReply) with
    | none => r
    | some x => { r with exchange := x, loads := r.loads ++ [(n, reply)] }

def moveAll (d : Device σ) (r : Record σ) (moves : List Exchange.Move) : Record σ :=
  moves.foldl (move d) r

/-- The same record with another queue. -/
def withQueue (r : Record σ) (queue : List Input) : Record σ :=
  { r with exchange := { r.exchange with session := { r.exchange.session with queue } } }

/-- Applies an input that is not in the queue. -/
def apply (d : Device σ) (r : Record σ) (i : Input) : Record σ :=
  let (s, trace) := r.exchange.session.apply d i
  r.goOn i (r.exchange.resume s trace) trace

variable (d : Device σ) (r : Record σ) (i : Input)

theorem move_dispatch (m : Message) : r.move d (.dispatch m) = r.apply d (.message m) := rfl

theorem move_redraw : r.move d .redraw =
    { r with
      exchange := { r.exchange with session := (r.exchange.session.redraw d).1 }
      trace := r.trace ++ (r.exchange.session.redraw d).2 } := by
  simp only [move, Exchange.redraw]
  rw [Exchange.resume_of_no_requests _ _ _ (Session.redraw_requests d _)]

theorem move_settle_of_empty (h : r.queue = []) : r.move d .settle = r := by
  have hs : r.exchange.session.settle d = (r.exchange.session, .nothing, none) := by
    unfold Session.settle
    rw [show r.exchange.session.queue = [] from h]
  simp only [move, Exchange.settle, h, hs, Trace.append_nothing]
  rw [Exchange.resume_of_no_requests _ _ _ rfl]

theorem move_settle_of_cons {rest : List Input} (h : r.queue = i :: rest) :
    r.move d .settle = (r.withQueue rest).apply d i := by
  have hs : r.exchange.session.settle d =
      (((r.withQueue rest).exchange.session.apply d i).1,
        ((r.withQueue rest).exchange.session.apply d i).2, some !i.isQuit) := by
    unfold Session.settle
    rw [show r.exchange.session.queue = i :: rest from h]
    rfl
  simp only [move, Exchange.settle, h, hs]
  rfl

/-- A reply reaches a request that waits, or nothing happens. -/
theorem move_replyEval (n : Nat) (reply : Option (Outcome Json)) :
    r.move d (.replyEval n reply) = r ∨
    ∃ k t, r.exchange.evals[k]? = some (some t) ∧ r.move d (.replyEval n reply) =
      { r with
        exchange := { r.exchange with evals := r.exchange.evals.set k none }.enqueue
          (.message (.evalFinished t (reply.getD Exchange.noReply)))
        replies := r.replies ++ [(k + 1, reply)] } := by
  cases hx : r.exchange.answerEval? n (reply.getD Exchange.noReply) with
  | none =>
    left
    simp only [move, hx]
  | some x =>
    obtain ⟨k, t, rfl, hk, rfl⟩ := Exchange.answerEval?_eq_some_iff.mp hx
    exact .inr ⟨k, t, hk, by simp only [move, hx]⟩

theorem move_replyFetch (n : Nat) (reply : Option (Outcome (List Entry))) :
    r.move d (.replyFetch n reply) = r ∨
    ∃ k, r.exchange.fetches[k]? = some true ∧ r.move d (.replyFetch n reply) =
      { r with
        exchange := { r.exchange with fetches := r.exchange.fetches.set k false }.enqueue
          (.message (.catalogLoaded (reply.getD Exchange.noReply)))
        loads := r.loads ++ [(k + 1, reply)] } := by
  cases hx : r.exchange.answerFetch? n (reply.getD Exchange.noReply) with
  | none =>
    left
    simp only [move, hx]
  | some x =>
    obtain ⟨k, rfl, hk, rfl⟩ := Exchange.answerFetch?_eq_some_iff.mp hx
    exact .inr ⟨k, hk, by simp only [move, hx]⟩

/-! ## What applying an input does to a record -/

theorem apply_session :
    (r.apply d i).exchange.session = (r.exchange.session.apply d i).1 := by
  simp only [apply, goOn, Exchange.resume_session]

theorem apply_pad : (r.apply d i).pad = r.pad.take i := by
  simp only [pad, apply_session, Session.apply_pad]

theorem apply_queue : (r.apply d i).queue = r.queue := by
  simp only [queue, apply_session, Session.apply_queue]

theorem apply_submits : (r.apply d i).submits = r.submits + if i.isSubmit then 1 else 0 := by
  simp [apply, goOn, submits, List.countP_append, List.countP_singleton]

theorem apply_asked : (r.apply d i).asked =
    r.asked ++ if i.isSubmit then [⟨r.pad.editor.issued + 1⟩] else [] := by
  simp only [apply, goOn, asked, Trace.append_requests, List.filterMap_append, List.map_append,
    Session.apply_evaluations]
  cases i.isSubmit <;> rfl

theorem apply_fetches : (r.apply d i).fetches =
    r.fetches + (r.exchange.session.apply d i).2.requests.countP Request.isFetch := by
  simp only [apply, goOn, fetches, Trace.append_requests, List.countP_append]

theorem apply_evals : (r.apply d i).exchange.evals =
    r.exchange.evals ++ if i.isSubmit then [some ⟨r.pad.editor.issued + 1⟩] else [] := by
  simp only [apply, goOn, Exchange.resume_evals, Session.apply_evaluations]
  cases i.isSubmit <;> rfl

theorem apply_slots : (r.apply d i).exchange.fetches = r.exchange.fetches ++
    List.replicate ((r.exchange.session.apply d i).2.requests.countP Request.isFetch) true := by
  simp only [apply, goOn, Exchange.resume_fetches]

theorem apply_settled : (r.apply d i).settled = r.settled ++ i.completion?.toList := by
  simp only [apply, goOn, settled, List.filterMap_append]
  cases h : i.completion? <;> simp [h]

theorem apply_loaded : (r.apply d i).loaded = r.loaded ++ i.load?.toList := by
  simp only [apply, goOn, loaded, List.filterMap_append]
  cases h : i.load? <;> simp [h]

theorem apply_dispositions :
    (r.apply d i).dispositions = r.dispositions ++ (r.pad.disposition? i).toList := by
  simp only [apply, goOn, dispositions, List.filterMap_append]
  cases h : r.pad.disposition? i <;> simp [h]

theorem apply_completions : (r.apply d i).exchange.completions = r.exchange.completions :=
  congrArg (List.filterMap Input.completion?) (r.apply_queue d i)

theorem apply_loads : (r.apply d i).exchange.loads = r.exchange.loads :=
  congrArg (List.filterMap Input.load?) (r.apply_queue d i)

theorem apply_log : (r.apply d i).trace.log.filter Event.isReport =
    r.trace.log.filter Event.isReport ++
      ((r.pad.disposition? i).bind fun c => c.2.report? c.1).toList := by
  simp only [apply, goOn, Trace.append_log, List.filter_append, Session.apply_reports]
  rfl

end Record
end Scratchpad
