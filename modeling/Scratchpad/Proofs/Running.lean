import Scratchpad.Proofs.Settlement

/-!
# Running sessions and what feeds them

A running session is a loop beside its producers: the forwarder of some lines, the requests, and
whoever else holds the queue. They take their steps in any order. A producer adds to the queue and
touches nothing else; the loop takes the input at the head of the queue, or draws, as `Session.run`
does with the turns that it took. So however the steps are interleaved, a session that has ended is
the fold of its inputs up to the first `quit`.
-/

namespace Scratchpad

theorem Input.eq_quit_of_isQuit {i : Input} (h : i.isQuit = true) : i = .command .quit := by
  cases i with
  | message m => cases h
  | command c => cases c <;> cases h; rfl

/-! ## Runs of a session -/

namespace Session
variable {σ : Type} (d : Device σ) (s : Session σ)

/-- The same session with nothing in its queue. -/
def unqueued (s : Session σ) : Session σ :=
  { s with queue := [] }

theorem dispatch_unqueued (m : Message) :
    s.unqueued.dispatch d m = ((s.dispatch d m).1.unqueued, (s.dispatch d m).2) := by
  have hpad : s.unqueued.pad = s.pad := rfl
  unfold dispatch
  cases h : (s.pad.update m).2.changed <;> simp only [hpad, h] <;> rfl

/-- The queue takes no part in what an input does. -/
theorem apply_unqueued (i : Input) :
    s.unqueued.apply d i = ((s.apply d i).1.unqueued, (s.apply d i).2) := by
  cases h : s.pad.reading? i with
  | some m => rw [s.apply_of_reading? d h, s.unqueued.apply_of_reading? d h, dispatch_unqueued]
  | none =>
    obtain rfl | rfl | ⟨name, rfl, hname⟩ := Pad.reading?_eq_none_iff.mp h
    · rfl
    · rfl
    · rw [s.apply_select_of_unknown d hname, s.unqueued.apply_select_of_unknown d hname]

theorem run_append {turns : List Turn} (more : List Turn) (h : (s.run d turns).2.2 = false) :
    s.run d (turns ++ more) =
      (((s.run d turns).1.run d more).1, (s.run d turns).2.1 ++ ((s.run d turns).1.run d more).2.1,
        ((s.run d turns).1.run d more).2.2) := by
  induction turns generalizing s with
  | nil => simp [run]
  | cons t rest ih =>
    cases ht : t.isQuit with
    | true =>
      rw [run_cons_of_quit d s rest ht] at h
      cases h
    | false =>
      rw [run_cons_of_not_quit d s rest ht] at h
      rw [List.cons_append, run_cons_of_not_quit d s _ ht, run_cons_of_not_quit d s _ ht,
        ih _ h]
      simp only [Trace.append_assoc]

theorem run_singleton {t : Turn} (h : t.isQuit = false) :
    s.run d [t] = ((s.turn d t).1, (s.turn d t).2, false) := by
  rw [run_cons_of_not_quit d s [] h]
  simp only [run, Trace.append_nothing]

/-- The pad after a run is that of the inputs before the first `quit`. -/
theorem run_pad (turns : List Turn) : (s.run d turns).1.pad =
    s.pad.takeAll ((Turn.inputs turns).takeWhile (!·.isQuit)) := by
  rw [run_eq_play, ← Turn.inputs_beforeQuit]
  split
  · rw [close_pad, play_pad]
  · next h => rw [play_pad, Turn.beforeQuit_eq_self h]

theorem run_closed (turns : List Turn) : (s.run d turns).2.2 = turns.any Turn.isQuit := by
  rw [run_eq_play]
  split <;> simp_all

/-- The last thing that a run logs is how many requests are in flight. -/
theorem run_log_of_closed {turns : List Turn} (h : (s.run d turns).2.2 = true) :
    (s.run d turns).2.1.log.getLast? =
      some (.sessionEnded (s.run d turns).1.pad.editor.inFlight.length) := by
  rw [run_closed] at h
  rw [run_eq_play, if_pos h]
  simp [close, Trace.append_log, Trace.logging]

theorem Turn.any_isQuit (turns : List Turn) :
    turns.any isQuit = (inputs turns).any Input.isQuit := by
  induction turns with
  | nil => rfl
  | cons t rest ih => cases t <;> simp [inputs, input?, isQuit, ih]

theorem Turn.inputs_append (turns more : List Turn) :
    inputs (turns ++ more) = inputs turns ++ inputs more :=
  List.filterMap_append

end Session

/-- The session ends. -/
def Record.close {σ : Type} (d : Device σ) (r : Record σ) : Record σ :=
  { r with
    exchange := { r.exchange with session := (r.exchange.session.close d).1 }
    trace := r.trace ++ (r.exchange.session.close d).2 }

/-- What the forwarder of some lines has to send. -/
def Command.forwarded (lines : List String) : List Command :=
  (lines.map parse).takeWhile (· ≠ .quit) ++ [.quit]

/-- `turns` are those that the loop took and `arrived` is all that ever entered the queue. The
forwarder has sent some commands and has some lines left to read, until it stops. -/
structure Running (σ : Type) where
  record : Record σ
  turns : List Session.Turn
  arrived : List Input
  sent : List Command
  unread : Option (List String)
  closed : Bool

namespace Running
variable {σ : Type}

/-- A step of the timer, of the loop, or of a producer. -/
inductive Step
  | tick
  | receive
  | forward
  | send (i : Input)
  | replyEval (n : Nat) (reply : Option (Outcome Json))
  | replyFetch (n : Nat) (reply : Option (Outcome (List Entry)))

namespace Step

def isHonest : Step → Bool
  | .send i => i.isPlain
  | _ => true

def isReceive : Step → Bool
  | .receive => true
  | _ => false

def isForward : Step → Bool
  | .forward => true
  | _ => false

theorem eq_receive_of_isReceive {e : Step} (h : e.isReceive = true) : e = .receive := by
  cases e <;> cases h
  rfl

theorem eq_forward_of_isForward {e : Step} (h : e.isForward = true) : e = .forward := by
  cases e <;> cases h
  rfl

/-- Somebody other than the forwarder sends `quit`. -/
def isQuit : Step → Bool
  | .send i => i.isQuit
  | _ => false

end Step

/-- A session starts to run, with whatever is in its queue. -/
def start (r : Record σ) (lines : List String) : Running σ :=
  ⟨r, [], r.queue, [], some lines, false⟩

def tick (d : Device σ) (x : Running σ) : Running σ :=
  { x with record := x.record.move d .redraw, turns := x.turns ++ [.tick] }

/-- The loop takes the oldest input, if there is one. -/
def receive (d : Device σ) (x : Running σ) : Running σ :=
  match x.record.queue with
  | [] => x
  | i :: _ =>
    let r := x.record.move d .settle
    { x with
      record := if i.isQuit then r.close d else r
      turns := x.turns ++ [.input i]
      closed := i.isQuit }

/-- Goes on after the move of a producer. The queue of a session that has ended takes nothing. -/
def feed (x : Running σ) (r : Record σ) : Running σ :=
  if x.closed then { x with record := r.withQueue x.record.queue }
  else { x with record := r, arrived := x.arrived ++ r.queue.drop x.record.queue.length }

/-- The forwarder sends a command, unless it is refused. -/
def offer (d : Device σ) (x : Running σ) (c : Command) : Running σ :=
  { x.feed (x.record.move d (.send (.command c))) with
    sent := if x.closed then x.sent else x.sent ++ [c] }

/-- The forwarder reads a line and sends its command. It stops after a `quit`, one of its own where
the lines end, and when it is refused. -/
def forward (d : Device σ) (x : Running σ) : Running σ :=
  match x.unread with
  | none => x
  | some [] => { x.offer d .quit with unread := none }
  | some (line :: rest) =>
    let c := Command.parse line
    { x.offer d c with unread := if x.closed || c = .quit then none else some rest }

def step (d : Device σ) (x : Running σ) : Step → Running σ
  | .tick => if x.closed then x else x.tick d
  | .receive => if x.closed then x else x.receive d
  | .forward => x.forward d
  | .send i => x.feed (x.record.move d (.send i))
  | .replyEval n reply => x.feed (x.record.move d (.replyEval n reply))
  | .replyFetch n reply => x.feed (x.record.move d (.replyFetch n reply))

def after (d : Device σ) (x : Running σ) (steps : List Step) : Running σ :=
  steps.foldl (step d) x

/-! ## Steps of producers -/

/-- From `x` to `y` nothing happened but that some inputs entered the queue. -/
structure Fed (x y : Running σ) (new : List Input) : Prop where
  session : y.record.exchange.session =
    { x.record.exchange.session with queue := x.record.queue ++ new }
  trace : y.record.trace = x.record.trace
  inputs : y.record.inputs = x.record.inputs
  turns : y.turns = x.turns
  arrived : y.arrived = x.arrived ++ new
  closed : y.closed = x.closed

variable {d : Device σ} {x y z : Running σ}

theorem Fed.refl (x : Running σ) : Fed x x [] where
  session := by rw [List.append_nil]; rfl
  trace := rfl
  inputs := rfl
  turns := rfl
  arrived := (List.append_nil _).symm
  closed := rfl

theorem Fed.queue {new : List Input} (h : Fed x y new) : y.record.queue = x.record.queue ++ new :=
  congrArg Session.queue h.session

theorem Fed.trans {new new' : List Input} (h : Fed x y new) (h' : Fed y z new') :
    Fed x z (new ++ new') where
  session := by rw [h'.session, h.queue, h.session, List.append_assoc]
  trace := h'.trace.trans h.trace
  inputs := h'.inputs.trans h.inputs
  turns := h'.turns.trans h.turns
  arrived := by rw [h'.arrived, h.arrived, List.append_assoc]
  closed := h'.closed.trans h.closed

theorem fed_feed {r : Record σ} {new : List Input}
    (hsession : r.exchange.session =
      { x.record.exchange.session with queue := x.record.queue ++ new })
    (htrace : r.trace = x.record.trace) (hinputs : r.inputs = x.record.inputs) :
    Fed x (x.feed r) (if x.closed then [] else new) := by
  have hqueue : r.queue = x.record.queue ++ new := congrArg Session.queue hsession
  cases h : x.closed with
  | true =>
    simp only [feed, h, if_true]
    refine ⟨?_, htrace, hinputs, rfl, (List.append_nil _).symm, h.symm⟩
    simp only [Record.withQueue, hsession, List.append_nil]
  | false =>
    simp only [feed, h, Bool.false_eq_true, if_false]
    refine ⟨hsession, htrace, hinputs, rfl, ?_, h.symm⟩
    rw [hqueue, List.drop_left]

theorem fed_send (d : Device σ) (x : Running σ) (i : Input) :
    Fed x (x.feed (x.record.move d (.send i))) (if x.closed then [] else [i]) :=
  fed_feed rfl rfl rfl

theorem fed_replyEval (d : Device σ) (x : Running σ) (n : Nat) (reply : Option (Outcome Json)) :
    ∃ ms : List Message, Fed x (x.feed (x.record.move d (.replyEval n reply)))
      (if x.closed then [] else ms.map .message) := by
  obtain hr | ⟨k, t, _, hr⟩ := x.record.move_replyEval d n reply
  · rw [hr]
    exact ⟨[], fed_feed (Fed.refl x).session rfl rfl⟩
  · rw [hr]
    exact ⟨[.evalFinished t (reply.getD Exchange.noReply)], fed_feed rfl rfl rfl⟩

theorem fed_replyFetch (d : Device σ) (x : Running σ) (n : Nat)
    (reply : Option (Outcome (List Entry))) :
    ∃ ms : List Message, Fed x (x.feed (x.record.move d (.replyFetch n reply)))
      (if x.closed then [] else ms.map .message) := by
  obtain hr | ⟨k, _, hr⟩ := x.record.move_replyFetch d n reply
  · rw [hr]
    exact ⟨[], fed_feed (Fed.refl x).session rfl rfl⟩
  · rw [hr]
    exact ⟨[.catalogLoaded (reply.getD Exchange.noReply)], fed_feed rfl rfl rfl⟩

/-- What the forwarder has still to send. -/
def unsent (x : Running σ) : List Command :=
  (x.unread.map Command.forwarded).getD []

/-- The forwarder has stopped, or it sends the next of its commands. It has sent all of them with
the first `quit`. -/
theorem forward_cases (d : Device σ) (x : Running σ) :
    (x.unread = none ∧ x.forward d = x) ∨
    ∃ c u, x.unread ≠ none ∧ x.unsent = c :: (u.map Command.forwarded).getD [] ∧
      (c = .quit ↔ u = none) ∧
      x.forward d = { x.offer d c with unread := if x.closed then none else u } := by
  obtain ⟨record, turns, arrived, sent, unread, closed⟩ := x
  match unread with
  | none => exact .inl ⟨rfl, rfl⟩
  | some [] =>
    refine .inr ⟨.quit, none, by simp, rfl, by simp, ?_⟩
    cases closed <;> rfl
  | some (line :: rest) =>
    by_cases h : Command.parse line = .quit
    · refine .inr ⟨.quit, none, by simp, ?_, by simp, ?_⟩
      · simp [unsent, Command.forwarded, h]
      · cases closed <;> simp [forward, h]
    · refine .inr ⟨.parse line, some rest, by simp, ?_, by simp [h], ?_⟩
      · simp [unsent, Command.forwarded, h]
      · cases closed <;> simp [forward, h]

theorem fed_forward (d : Device σ) (x : Running σ) :
    ∃ new, Fed x (x.forward d) (if x.closed then [] else new) := by
  obtain ⟨_, h⟩ | ⟨c, u, _, _, _, h⟩ := x.forward_cases d
  · rw [h]
    refine ⟨[], ?_⟩
    rw [ite_self]
    exact Fed.refl x
  · rw [h]
    obtain ⟨hsession, htrace, hinputs, hturns, harrived, hclosed⟩ := fed_send d x (.command c)
    exact ⟨_, hsession, htrace, hinputs, hturns, harrived, hclosed⟩

/-! ## Steps -/

theorem receive_of_empty (h : x.record.queue = []) : x.receive d = x := by
  simp only [receive, h]

theorem receive_of_cons {i : Input} {rest : List Input} (h : x.record.queue = i :: rest) :
    x.receive d =
      { x with
        record := if i.isQuit then (x.record.move d .settle).close d else x.record.move d .settle
        turns := x.turns ++ [.input i]
        closed := i.isQuit } := by
  simp only [receive, h]

theorem receive_arrived (d : Device σ) (x : Running σ) : (x.receive d).arrived = x.arrived := by
  cases hq : x.record.queue with
  | nil => rw [receive_of_empty hq]
  | cons i rest => rw [receive_of_cons hq]

/-- In a session that has not ended the loop may take a turn. Every other step feeds the queue at
most, and not that of a session that has ended. -/
theorem step_cases (d : Device σ) (x : Running σ) (e : Step) :
    (∃ new, Fed x (x.step d e) (if x.closed then [] else new)) ∨
    (x.closed = false ∧ e = .tick ∧ x.step d e = x.tick d) ∨
    (x.closed = false ∧ e = .receive ∧ x.step d e = x.receive d ∧
      ∃ i rest, x.record.queue = i :: rest) := by
  have hstill : ∃ new, Fed x x (if x.closed then [] else new) := by
    refine ⟨[], ?_⟩
    rw [ite_self]
    exact Fed.refl x
  cases e with
  | tick =>
    cases h : x.closed with
    | true =>
      left
      simpa only [step, h, if_true] using hstill
    | false => exact .inr (.inl ⟨rfl, rfl, by simp only [step, h, Bool.false_eq_true, if_false]⟩)
  | receive =>
    cases h : x.closed with
    | true =>
      left
      simpa only [step, h, if_true] using hstill
    | false =>
      have hstep : x.step d .receive = x.receive d := by
        simp only [step, h, Bool.false_eq_true, if_false]
      cases hq : x.record.queue with
      | nil =>
        left
        rw [hstep, receive_of_empty hq]
        simpa only [h] using hstill
      | cons i rest => exact .inr (.inr ⟨rfl, rfl, hstep, i, rest, rfl⟩)
  | forward => exact .inl (fed_forward d x)
  | send i => exact .inl ⟨_, fed_send d x i⟩
  | replyEval n reply =>
    obtain ⟨ms, hf⟩ := fed_replyEval d x n reply
    exact .inl ⟨_, hf⟩
  | replyFetch n reply =>
    obtain ⟨ms, hf⟩ := fed_replyFetch d x n reply
    exact .inl ⟨_, hf⟩

/-- What has ended stays as it was. -/
theorem fed_step_of_closed (h : x.closed = true) (e : Step) : Fed x (x.step d e) [] := by
  obtain ⟨new, hfed⟩ | ⟨hopen, _⟩ | ⟨hopen, _⟩ := x.step_cases d e
  · simpa only [h, if_true] using hfed
  · rw [h] at hopen
    cases hopen
  · rw [h] at hopen
    cases hopen

theorem fed_after_of_closed (h : x.closed = true) (steps : List Step) :
    Fed x (x.after d steps) [] := by
  induction steps generalizing x with
  | nil => exact Fed.refl x
  | cons e rest ih =>
    have hstep : Fed x (x.step d e) [] := fed_step_of_closed h e
    exact hstep.trans (ih (hstep.closed.trans h))

/-! ## The run that a session follows -/

/-- The loop took the inputs in the order of the queue, and did with its turns what a run does. -/
structure Follows (d : Device σ) (r : Record σ) (x : Running σ) : Prop where
  taken : x.arrived = Session.Turn.inputs x.turns ++ x.record.queue
  session : (r.exchange.session.unqueued.run d x.turns).1 = x.record.exchange.session.unqueued
  trace : x.record.trace = r.trace ++ (r.exchange.session.unqueued.run d x.turns).2.1
  closed : (r.exchange.session.unqueued.run d x.turns).2.2 = x.closed

variable {r : Record σ}

theorem follows_start (d : Device σ) (r : Record σ) (lines : List String) :
    Follows d r (start r lines) where
  taken := rfl
  session := rfl
  trace := (Trace.append_nothing _).symm
  closed := rfl

namespace Follows

theorem fed {new : List Input} (h : Follows d r x) (hf : Fed x y new) : Follows d r y where
  taken := by rw [hf.arrived, h.taken, hf.queue, hf.turns, List.append_assoc]
  session := by rw [hf.turns, h.session, hf.session]; rfl
  trace := by rw [hf.trace, hf.turns, h.trace]
  closed := by rw [hf.turns, h.closed, hf.closed]

/-- One more turn, as a run takes it. -/
theorem turn (h : Follows d r x) (hopen : x.closed = false) (t : Session.Turn) (trace : Trace)
    (harrived : y.arrived = x.arrived) (hturns : y.turns = x.turns ++ [t])
    (hqueue : x.record.queue = Session.Turn.inputs [t] ++ y.record.queue)
    (hrun : x.record.exchange.session.unqueued.run d [t] =
      (y.record.exchange.session.unqueued, trace, y.closed))
    (htrace : y.record.trace = x.record.trace ++ trace) : Follows d r y := by
  have happend := Session.run_append d _ [t] (h.closed.trans hopen)
  rw [h.session, hrun, ← hturns] at happend
  refine ⟨?_, ?_, ?_, ?_⟩
  · rw [harrived, h.taken, hqueue, hturns, Session.Turn.inputs_append, List.append_assoc]
  · rw [happend]
  · rw [happend, htrace, h.trace, Trace.append_assoc]
  · rw [happend]

theorem tick (h : Follows d r x) (hopen : x.closed = false) : Follows d r (x.tick d) := by
  refine h.turn hopen .tick (x.record.exchange.session.redraw d).2 rfl rfl ?_ ?_ ?_
  · simp only [Running.tick, Record.move_redraw]
    rfl
  · rw [Session.run_singleton d _ rfl]
    simp only [Running.tick, Record.move_redraw, hopen]
    rfl
  · simp only [Running.tick, Record.move_redraw]

theorem receive (h : Follows d r x) (hopen : x.closed = false) {i : Input} {rest : List Input}
    (hq : x.record.queue = i :: rest) : Follows d r (x.receive d) := by
  rw [receive_of_cons hq, x.record.move_settle_of_cons d i hq]
  cases hi : i.isQuit with
  | true =>
    obtain rfl := Input.eq_quit_of_isQuit hi
    refine h.turn hopen (.input (.command .quit)) (x.record.exchange.session.close d).2
      rfl rfl hq ?_ ?_
    · rw [Session.run_cons_of_quit d _ [] rfl]
      rfl
    · change x.record.trace ++ .nothing ++ _ = _
      rw [Trace.append_nothing]
      rfl
  | false =>
    have happly : x.record.exchange.session.unqueued.apply d i =
        (((x.record.withQueue rest).exchange.session.apply d i).1.unqueued,
          ((x.record.withQueue rest).exchange.session.apply d i).2) :=
      (x.record.withQueue rest).exchange.session.apply_unqueued d i
    refine h.turn hopen (.input i) ((x.record.withQueue rest).exchange.session.apply d i).2
      rfl rfl ?_ ?_ rfl
    · simp only [Bool.false_eq_true, if_false, Record.apply_queue]
      exact hq
    · rw [Session.run_singleton d _ (t := .input i) hi]
      simp only [Bool.false_eq_true, if_false, Record.apply_session, Session.turn, happly]

theorem step (h : Follows d r x) (e : Step) : Follows d r (x.step d e) := by
  obtain ⟨new, hf⟩ | ⟨hopen, _, hs⟩ | ⟨hopen, _, hs, i, rest, hq⟩ := x.step_cases d e
  · exact h.fed hf
  · rw [hs]
    exact h.tick hopen
  · rw [hs]
    exact h.receive hopen hq

theorem after (h : Follows d r x) (steps : List Step) : Follows d r (x.after d steps) := by
  induction steps generalizing x with
  | nil => exact h
  | cons e rest ih => exact ih (h.step e)

end Follows

/-! ## What a session that follows a run has done -/

namespace Follows

theorem any_isQuit (h : Follows d r x) :
    (Session.Turn.inputs x.turns).any Input.isQuit = x.closed := by
  rw [← h.closed, Session.run_closed, Session.Turn.any_isQuit]

theorem pad (h : Follows d r x) : x.record.pad =
    r.pad.takeAll ((Session.Turn.inputs x.turns).takeWhile (!·.isQuit)) := by
  have hpad := congrArg Session.pad h.session
  rw [Session.run_pad] at hpad
  exact hpad.symm

/-- Nothing that arrives behind the first `quit` counts. -/
theorem takeWhile_arrived (h : Follows d r x) (hclosed : x.closed = true) :
    x.arrived.takeWhile (!·.isQuit) =
      (Session.Turn.inputs x.turns).takeWhile (!·.isQuit) := by
  have hquit := h.any_isQuit.trans hclosed
  rw [h.taken, List.takeWhile_append, if_neg]
  intro hlength
  have hall := (List.takeWhile_prefix _).eq_of_length hlength
  rw [List.takeWhile_eq_self_iff] at hall
  obtain ⟨i, hi, hq⟩ := List.any_eq_true.mp hquit
  have hno := hall i hi
  rw [hq] at hno
  cases hno

theorem log (h : Follows d r x) (hclosed : x.closed = true) :
    x.record.trace.log.getLast? = some (.sessionEnded x.record.pad.editor.inFlight.length) := by
  have hlast := Session.run_log_of_closed d _ (h.closed.trans hclosed)
  rw [h.session] at hlast
  rw [h.trace, Trace.append_log, List.getLast?_append, hlast]
  rfl

end Follows

/-! ## Requests in flight -/

/-- The requests that were made and not settled are in flight, each once. -/
structure Counted (x : Running σ) : Prop where
  asked : (x.record.pad.editor.inFlight ++ x.record.settled.map Prod.fst).Perm x.record.asked
  nodup : x.record.asked.Nodup

/-- The books are kept while the session runs, and what was not settled when it ended stays in
flight. -/
structure Kept (x : Running σ) : Prop extends Counted x where
  kept : x.closed = false → x.record.Kept

theorem Fed.pad {new : List Input} (h : Fed x y new) : y.record.pad = x.record.pad := by
  rw [Record.pad, h.session]
  rfl

theorem Fed.asked {new : List Input} (h : Fed x y new) : y.record.asked = x.record.asked := by
  rw [Record.asked, Record.asked, h.trace]

theorem Fed.settled {new : List Input} (h : Fed x y new) :
    y.record.settled = x.record.settled := by
  rw [Record.settled, Record.settled, h.inputs]

theorem feed_record_of_open (h : x.closed = false) (r : Record σ) : (x.feed r).record = r := by
  simp only [feed, h, Bool.false_eq_true, if_false]

namespace Kept

theorem of_record (h : x.record.Kept) : Kept x :=
  ⟨⟨h.accounted.asked, h.accounted.asked_nodup⟩, fun _ => h⟩

/-- Closing a session draws, and changes no book. -/
theorem of_close (hr : r.Kept) (hrecord : x.record = r.close d) (hclosed : x.closed = true) :
    Kept x := by
  have hasked : x.record.asked = r.asked := by
    rw [hrecord]
    simp only [Record.asked, Record.close, Trace.append_requests, Session.close_requests,
      List.append_nil]
  have hpad : x.record.pad = r.pad := by
    rw [hrecord]
    rfl
  have hsettled : x.record.settled = r.settled := by
    rw [hrecord]
    rfl
  refine ⟨⟨?_, ?_⟩, ?_⟩
  · rw [hasked, hpad, hsettled]
    exact hr.accounted.asked
  · rw [hasked]
    exact hr.accounted.asked_nodup
  · intro hopen
    rw [hclosed] at hopen
    cases hopen

theorem step (h : Kept x) {e : Step} (he : e.isHonest = true) : Kept (x.step d e) := by
  cases hc : x.closed with
  | true =>
    have hf : Fed x (x.step d e) [] := fed_step_of_closed hc e
    refine ⟨⟨?_, ?_⟩, ?_⟩
    · rw [hf.pad, hf.settled, hf.asked]
      exact h.asked
    · rw [hf.asked]
      exact h.nodup
    · intro hopen
      rw [hf.closed, hc] at hopen
      cases hopen
  | false =>
    have hr : x.record.Kept := h.kept hc
    cases e with
    | tick =>
      simp only [Running.step, hc, Bool.false_eq_true, if_false]
      exact of_record (hr.redraw d)
    | receive =>
      simp only [Running.step, hc, Bool.false_eq_true, if_false]
      cases hq : x.record.queue with
      | nil =>
        rw [receive_of_empty hq]
        exact h
      | cons i rest =>
        rw [receive_of_cons hq]
        cases hi : i.isQuit with
        | true => exact of_close (hr.settle d) rfl rfl
        | false => exact of_record (hr.settle d)
    | forward =>
      refine of_record ?_
      obtain ⟨_, hf⟩ | ⟨c, u, _, _, _, hf⟩ := x.forward_cases d
      · rw [Running.step, hf]
        exact hr
      · simp only [Running.step, hf, offer, feed_record_of_open hc]
        exact hr.send d rfl
    | send i =>
      refine of_record ?_
      rw [Running.step, feed_record_of_open hc]
      exact hr.send d he
    | replyEval n reply =>
      refine of_record ?_
      rw [Running.step, feed_record_of_open hc]
      exact hr.replyEval d n reply
    | replyFetch n reply =>
      refine of_record ?_
      rw [Running.step, feed_record_of_open hc]
      exact hr.replyFetch d n reply

theorem after (h : Kept x) {steps : List Step} (hs : ∀ e ∈ steps, e.isHonest = true) :
    Kept (x.after d steps) := by
  induction steps generalizing x with
  | nil => exact h
  | cons e rest ih =>
    exact ih (h.step (hs e List.mem_cons_self)) fun f hf => hs f (List.mem_cons_of_mem e hf)

end Kept

/-! ## Progress -/

theorem arrived_prefix_step (d : Device σ) (x : Running σ) (e : Step) :
    x.arrived <+: (x.step d e).arrived := by
  obtain ⟨new, hf⟩ | ⟨_, _, hs⟩ | ⟨_, _, hs, _⟩ := x.step_cases d e
  · rw [hf.arrived]
    exact List.prefix_append _ _
  · rw [hs]
    exact List.prefix_refl _
  · have harrived : (x.step d e).arrived = x.arrived := by rw [hs, receive_arrived]
    exact harrived.symm ▸ List.prefix_refl _

theorem receive_queue {i : Input} {rest : List Input} (hq : x.record.queue = i :: rest) :
    (x.receive d).record.queue = rest := by
  rw [receive_of_cons hq, x.record.move_settle_of_cons d i hq]
  cases i.isQuit <;> exact (x.record.withQueue rest).apply_queue d i

theorem queue_step {e : Step} (he : e.isReceive = false) :
    ∃ new, (x.step d e).record.queue = x.record.queue ++ new := by
  obtain ⟨new, hf⟩ | ⟨_, _, hs⟩ | ⟨_, rfl, _⟩ := x.step_cases d e
  · exact ⟨_, hf.queue⟩
  · refine ⟨[], ?_⟩
    rw [hs, Running.tick, Record.move_redraw, List.append_nil]
    rfl
  · cases he

theorem closed_after_of_closed (h : x.closed = true) (steps : List Step) :
    (x.after d steps).closed = true :=
  (fed_after_of_closed h steps).closed.trans h

/-- A loop that takes as many inputs as stand before a `quit`, and then one more, ends. -/
theorem closed_after_of_queue {before rest : List Input} {i : Input} (hi : i.isQuit = true)
    (hq : x.record.queue = before ++ i :: rest) {steps : List Step}
    (hn : before.length < steps.countP Step.isReceive) : (x.after d steps).closed = true := by
  induction steps generalizing x before rest with
  | nil => simp at hn
  | cons e more ih =>
    change ((x.step d e).after d more).closed = true
    rw [List.countP_cons] at hn
    cases hc : x.closed with
    | true => exact closed_after_of_closed ((fed_step_of_closed hc e).closed.trans hc) more
    | false =>
      cases he : e.isReceive with
      | false =>
        obtain ⟨new, hnew⟩ := queue_step (d := d) (x := x) he
        rw [hq, List.append_assoc] at hnew
        refine ih hnew ?_
        simpa only [he, Bool.false_eq_true, if_false, Nat.add_zero] using hn
      | true =>
        obtain rfl := Step.eq_receive_of_isReceive he
        simp only [step, hc, Bool.false_eq_true, if_false]
        cases before with
        | nil =>
          refine closed_after_of_closed ?_ more
          rw [receive_of_cons hq]
          exact hi
        | cons b bs =>
          refine ih (receive_queue hq) ?_
          simp only [List.length_cons, he, if_true] at hn
          omega

end Running
end Scratchpad
