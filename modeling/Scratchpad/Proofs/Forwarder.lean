import Scratchpad.Dialogue
import Scratchpad.Proofs.Running

/-!
# Sessions that are fed with lines

The forwarder of some lines sends the command of each of them up to the first `quit`, or a `quit` of
its own behind the last one. Whatever the loop and the other producers do meanwhile, it sends a
prefix of these commands, and all of them unless somebody else ends the session. It never looks
behind the first line that quits, so neither does the session.
-/

namespace Scratchpad

/-- A dialogue is the fold of the commands before the first `quit`, too. -/
theorem Dialogue.converse_eq_foldl {σ : Type} (d : Device σ) (g : Dialogue) (s : Session σ)
    (lines : List String) : g.converse d s lines =
      ((((lines.map Command.parse).takeWhile (· ≠ .quit)).foldl
        (fun s c => g.apply d s (.command c)) s).close d).1 := by
  induction lines generalizing s with
  | nil => rfl
  | cons line rest ih =>
    rw [converse]
    split
    · next h => simp [h]
    · next h =>
      have hline : decide (Command.parse line ≠ .quit) = true := decide_eq_true h
      rw [ih, List.map_cons, List.takeWhile_cons, if_pos hline, List.foldl_cons]

namespace Running
variable {σ : Type} {d : Device σ} {x : Running σ}

/-! ## One step -/

theorem feed_beside (x : Running σ) (sent : List Command) (unread : Option (List String))
    (r : Record σ) : ({ x with sent := sent, unread := unread }).feed r =
      { x.feed r with sent := sent, unread := unread } := by
  cases h : x.closed <;> simp [feed, h]

/-- All steps but its own go on beside the forwarder, whatever that has done. -/
theorem step_beside (sent : List Command) (unread : Option (List String)) {e : Step}
    (he : e.isForward = false) : ({ x with sent := sent, unread := unread }).step d e =
      { x.step d e with sent := sent, unread := unread } := by
  cases e with
  | tick => cases h : x.closed <;> simp [step, h, tick]
  | receive =>
    cases h : x.closed with
    | true => simp [step, h]
    | false =>
      cases hq : x.record.queue with
      | nil => simp [step, h, receive, hq]
      | cons i rest => simp [step, h, receive, hq]
  | forward => cases he
  | send i => exact x.feed_beside sent unread _
  | replyEval n reply => exact x.feed_beside sent unread _
  | replyFetch n reply => exact x.feed_beside sent unread _

theorem step_forwarder {e : Step} (he : e.isForward = false) :
    (x.step d e).sent = x.sent ∧ (x.step d e).unread = x.unread := by
  have hstep : x.step d e = { x.step d e with sent := x.sent, unread := x.unread } :=
    step_beside x.sent x.unread he
  rw [hstep]
  exact ⟨rfl, rfl⟩

/-- The forwarder moves if it has not stopped, and is refused if the session has ended. -/
theorem step_forward (x : Running σ) (h : x.unread ≠ none) :
    ∃ c u, x.unsent = c :: (u.map Command.forwarded).getD [] ∧ (c = .quit ↔ u = none) ∧
      (x.step d .forward).sent = x.sent ++ (if x.closed then [] else [c]) ∧
      (x.step d .forward).arrived = x.arrived ++ (if x.closed then [] else [.command c]) ∧
      (x.step d .forward).unread = if x.closed then none else u := by
  obtain ⟨hnone, _⟩ | ⟨c, u, _, hunsent, hc, hf⟩ := x.forward_cases d
  · exact absurd hnone h
  · refine ⟨c, u, hunsent, hc, ?_, ?_, ?_⟩
    · rw [step, hf, offer]
      cases x.closed <;> simp
    · rw [step, hf]
      exact (fed_send d x (.command c)).arrived
    · rw [step, hf]

theorem step_forward_of_stopped (h : x.unread = none) : x.step d .forward = x := by
  simp only [step, forward, h]

/-- Only somebody who sends a `quit` brings one into the queue. -/
theorem arrived_step_of_not_quit {e : Step} (hf : e.isForward = false) (hq : e.isQuit = false) :
    (x.step d e).arrived.any Input.isQuit = x.arrived.any Input.isQuit := by
  have hfed {y : Running σ} {new : List Input} (h : Fed x y (if x.closed then [] else new))
      (hnew : new.any Input.isQuit = false) :
      y.arrived.any Input.isQuit = x.arrived.any Input.isQuit := by
    rw [h.arrived, List.any_append]
    cases x.closed <;> simp [hnew]
  have hmessages (ms : List Message) : (ms.map Input.message).any Input.isQuit = false := by
    simp [Input.isQuit]
  cases e with
  | tick => cases h : x.closed <;> simp [step, h, tick]
  | receive => cases h : x.closed <;> simp [step, h, receive_arrived]
  | forward => cases hf
  | send i =>
    have hi : i.isQuit = false := hq
    exact hfed (fed_send d x i) (by simp [hi])
  | replyEval n reply =>
    obtain ⟨ms, h⟩ := fed_replyEval d x n reply
    exact hfed h (hmessages ms)
  | replyFetch n reply =>
    obtain ⟨ms, h⟩ := fed_replyFetch d x n reply
    exact hfed h (hmessages ms)

/-! ## What is sent -/

/-- The forwarder has sent a prefix of its commands, and the rest is still to come unless the
session has ended. They arrived in this order. -/
structure Forwards (lines : List String) (x : Running σ) : Prop where
  sent : x.sent <+: Command.forwarded lines
  unsent : x.closed = false → x.sent ++ x.unsent = Command.forwarded lines
  arrived : (x.sent.map Input.command).Sublist x.arrived

theorem forwards_start (r : Record σ) (lines : List String) : Forwards lines (start r lines) where
  sent := List.nil_prefix
  unsent := fun _ => rfl
  arrived := List.nil_sublist _

theorem unsent_congr {y : Running σ} (h : y.unread = x.unread) : y.unsent = x.unsent := by
  rw [Running.unsent, Running.unsent, h]

theorem Forwards.step {lines : List String} (h : Forwards lines x) (e : Step) :
    Forwards lines (x.step d e) := by
  have hopen : (x.step d e).closed = false → x.closed = false := by
    intro hy
    cases hx : x.closed with
    | false => rfl
    | true =>
      rw [(fed_step_of_closed hx e).closed, hx] at hy
      cases hy
  cases he : e.isForward with
  | false =>
    obtain ⟨hsent, hunread⟩ := step_forwarder (d := d) (x := x) he
    refine ⟨?_, ?_, ?_⟩
    · rw [hsent]
      exact h.sent
    · intro hy
      rw [hsent, unsent_congr hunread]
      exact h.unsent (hopen hy)
    · rw [hsent]
      exact h.arrived.trans (x.arrived_prefix_step d e).sublist
  | true =>
    obtain rfl := Step.eq_forward_of_isForward he
    by_cases hu : x.unread = none
    · rw [step_forward_of_stopped hu]
      exact h
    obtain ⟨c, u, hunsent, _, hsent, harrived, hunread⟩ := x.step_forward (d := d) hu
    cases hx : x.closed with
    | true =>
      rw [hx] at hsent harrived
      refine ⟨?_, ?_, ?_⟩
      · rw [hsent, if_pos rfl, List.append_nil]
        exact h.sent
      · intro hy
        rw [hopen hy] at hx
        cases hx
      · rw [hsent, harrived, if_pos rfl, if_pos rfl, List.append_nil, List.append_nil]
        exact h.arrived
    | false =>
      have hall := h.unsent hx
      simp only [hx, Bool.false_eq_true, if_false] at hsent harrived hunread
      have hy : (x.step d .forward).sent ++ (x.step d .forward).unsent =
          Command.forwarded lines := by
        rw [← hall, hunsent, hsent, Running.unsent, hunread]
        exact List.append_assoc _ _ _
      refine ⟨?_, fun _ => hy, ?_⟩
      · rw [← hy]
        exact List.prefix_append _ _
      · rw [hsent, harrived, List.map_append]
        exact h.arrived.append (List.Sublist.refl _)

theorem Forwards.after {lines : List String} (h : Forwards lines x) (steps : List Step) :
    Forwards lines (x.after d steps) := by
  induction steps generalizing x with
  | nil => exact h
  | cons e rest ih => exact ih (h.step e)

theorem unread_eq_none_of_unsent (h : x.unsent = []) : x.unread = none := by
  cases hu : x.unread with
  | none => rfl
  | some lines => simp [Running.unsent, hu, Command.forwarded] at h

theorem unsent_of_stopped (h : x.unread = none) : x.unsent = [] := by
  simp [Running.unsent, h]

/-- A forwarder that gets to move once for each of its commands stops. -/
theorem unread_after {steps : List Step} (h : x.unsent.length ≤ steps.countP Step.isForward) :
    (x.after d steps).unread = none := by
  induction steps generalizing x with
  | nil => exact unread_eq_none_of_unsent (List.length_eq_zero_iff.mp (Nat.le_zero.mp h))
  | cons e rest ih =>
    refine ih ?_
    rw [List.countP_cons] at h
    cases he : e.isForward with
    | false =>
      rw [unsent_congr (step_forwarder he).2]
      simpa only [he, Bool.false_eq_true, if_false, Nat.add_zero] using h
    | true =>
      obtain rfl := Step.eq_forward_of_isForward he
      by_cases hu : x.unread = none
      · rw [step_forward_of_stopped hu, unsent_of_stopped hu]
        exact Nat.zero_le _
      obtain ⟨c, u, hunsent, _, _, _, hunread⟩ := x.step_forward (d := d) hu
      have hrest : (x.step d .forward).unsent.length ≤
          ((u.map Command.forwarded).getD []).length := by
        rw [Running.unsent, hunread]
        cases x.closed
        · exact Nat.le_refl _
        · exact Nat.zero_le _
      rw [hunsent, he, if_pos rfl, List.length_cons] at h
      omega

theorem Follows.closed_arrived {r : Record σ} (h : Follows d r x) (hclosed : x.closed = true) :
    x.arrived.any Input.isQuit = true := by
  rw [h.taken, List.any_append, h.any_isQuit, hclosed, Bool.true_or]

/-- As long as nobody else quits, the forwarder is not refused: a `quit` in the queue is its last
command. -/
structure Alone (lines : List String) (x : Running σ) : Prop where
  all : x.sent ++ x.unsent = Command.forwarded lines
  stopped : x.arrived.any Input.isQuit = true → x.unread = none

theorem Alone.step {lines : List String} {r : Record σ} (h : Alone lines x) (hx : Follows d r x)
    {e : Step} (he : e.isQuit = false) : Alone lines (x.step d e) := by
  cases hf : e.isForward with
  | false =>
    obtain ⟨hsent, hunread⟩ := step_forwarder (d := d) (x := x) hf
    refine ⟨?_, ?_⟩
    · rw [hsent, unsent_congr hunread]
      exact h.all
    · rw [arrived_step_of_not_quit hf he, hunread]
      exact h.stopped
  | true =>
    obtain rfl := Step.eq_forward_of_isForward hf
    by_cases hu : x.unread = none
    · rw [step_forward_of_stopped hu]
      exact h
    have hquit : x.arrived.any Input.isQuit = false :=
      Bool.eq_false_iff.mpr fun hany => hu (h.stopped hany)
    have hopen : x.closed = false :=
      Bool.eq_false_iff.mpr fun hclosed => hu (h.stopped (hx.closed_arrived hclosed))
    obtain ⟨c, u, hunsent, hc, hsent, harrived, hunread⟩ := x.step_forward (d := d) hu
    simp only [hopen, Bool.false_eq_true, if_false] at hsent harrived hunread
    refine ⟨?_, ?_⟩
    · rw [← h.all, hunsent, hsent, Running.unsent, hunread]
      exact List.append_assoc _ _ _
    · intro hany
      rw [harrived, List.any_append, hquit, Bool.false_or, List.any_cons, List.any_nil,
        Bool.or_false] at hany
      have hcommand := Input.eq_quit_of_isQuit hany
      rw [hunread]
      exact hc.mp (Input.command.inj hcommand)

theorem Alone.after {lines : List String} {r : Record σ} (h : Alone lines x) (hx : Follows d r x)
    {steps : List Step} (hs : ∀ e ∈ steps, e.isQuit = false) : Alone lines (x.after d steps) := by
  induction steps generalizing x with
  | nil => exact h
  | cons e rest ih =>
    exact ih (h.step hx (hs e List.mem_cons_self)) (hx.step e)
      fun f hf => hs f (List.mem_cons_of_mem e hf)

/-! ## What the forwarder does not read -/

theorem offer_unread (x : Running σ) (u : Option (List String)) (c : Command) :
    ({ x with unread := u }).offer d c = { x.offer d c with unread := u } := by
  simp only [offer, feed_beside]

/-- The lines behind one that quits do not show in a step, and stay behind it. -/
theorem step_before {q : String} (hq : Command.parse q = .quit) (x : Running σ)
    (before : Option (List String)) (e : Step) :
    ∃ (y : Running σ) (before' : Option (List String)), ∀ rest,
      ({ x with unread := before.map (· ++ q :: rest) }).step d e =
        { y with unread := before'.map (· ++ q :: rest) } := by
  cases he : e.isForward with
  | false => exact ⟨{ x.step d e with sent := x.sent }, before, fun rest => step_beside _ _ he⟩
  | true =>
    obtain rfl := Step.eq_forward_of_isForward he
    match before with
    | none => exact ⟨x, none, fun rest => rfl⟩
    | some [] =>
      refine ⟨x.offer d .quit, none, fun rest => ?_⟩
      simp [step, forward, hq, offer_unread]
    | some (line :: lines) =>
      refine ⟨x.offer d (.parse line),
        if x.closed || Command.parse line = .quit then none else some lines, fun rest => ?_⟩
      simp only [step, forward, Option.map_some, List.cons_append, offer_unread]
      split <;> rfl

theorem after_before {q : String} (hq : Command.parse q = .quit) (x : Running σ)
    (before : Option (List String)) (steps : List Step) :
    ∃ (y : Running σ) (before' : Option (List String)), ∀ rest,
      ({ x with unread := before.map (· ++ q :: rest) }).after d steps =
        { y with unread := before'.map (· ++ q :: rest) } := by
  induction steps generalizing x before with
  | nil => exact ⟨x, before, fun rest => rfl⟩
  | cons e more ih =>
    obtain ⟨y, before', hstep⟩ := x.step_before (d := d) hq before e
    obtain ⟨z, before'', hmore⟩ := ih y before'
    refine ⟨z, before'', fun rest => ?_⟩
    change (({ x with unread := before.map (· ++ q :: rest) }).step d e).after d more = _
    rw [hstep, hmore]

/-- Runs that start alike and go on alike differ in nothing but the lines left over. -/
theorem start_before {q : String} (hq : Command.parse q = .quit) (d : Device σ) (r : Record σ)
    (before : List String) (steps : List Step) :
    ∃ y : Running σ, ∀ rest, ∃ unread,
      (start r (before ++ q :: rest)).after d steps = { y with unread := unread } := by
  obtain ⟨y, before', h⟩ := (start r []).after_before (d := d) hq (some before) steps
  exact ⟨y, fun rest => ⟨_, h rest⟩⟩

/-! ## Runs -/

/-- `r` is how the session started and `x` is what became of it. Its loop took the inputs in the
order of the queue, as a run does. When it has ended, its pad is the fold of what arrived before the
first `quit`, its last report counts what is in flight, and it stays as it is whatever comes. It
ends when it gets to take what is in the queue and there is a `quit` among it. -/
structure Ran (d : Device σ) (r : Record σ) (x : Running σ) : Prop extends Follows d r x where
  pad : x.closed = true → x.record.pad = r.pad.takeAll (x.arrived.takeWhile (!·.isQuit))
  log : x.closed = true →
    x.record.trace.log.getLast? = some (.sessionEnded x.record.pad.editor.inFlight.length)
  final : x.closed = true → ∀ more, Fed x (x.after d more) []
  ends : x.arrived.any Input.isQuit = true → ∀ more,
    x.record.queue.length ≤ more.countP Step.isReceive → (x.after d more).closed = true

theorem Follows.ran {r : Record σ} (h : Follows d r x) : Ran d r x where
  toFollows := h
  pad := by
    intro hclosed
    rw [h.takeWhile_arrived hclosed]
    exact h.pad
  log := h.log
  final := fun hclosed more => fed_after_of_closed hclosed more
  ends := by
    intro hany more hn
    cases hclosed : x.closed with
    | true => exact closed_after_of_closed hclosed more
    | false =>
      rw [h.taken, List.any_append, h.any_isQuit, hclosed, Bool.false_or] at hany
      obtain ⟨i, hi, hquit⟩ := List.any_eq_true.mp hany
      obtain ⟨before, rest, hq⟩ := List.append_of_mem hi
      refine closed_after_of_queue hquit hq ?_
      rw [hq, List.length_append, List.length_cons] at hn
      omega

/-- What the forwarder of some lines has done to a session. It has sent all its commands once it got
to move often enough, unless somebody else has ended the session. -/
structure Forwarded (r : Record σ) (lines : List String) (steps : List Step) (x : Running σ) : Prop
    extends Forwards lines x where
  stops : (Command.forwarded lines).length ≤ steps.countP Step.isForward → x.unread = none
  all : (∀ i ∈ r.queue, i.isQuit = false) → (∀ e ∈ steps, e.isQuit = false) → x.unread = none →
    x.sent = Command.forwarded lines

theorem forwarded_after (d : Device σ) (r : Record σ) (lines : List String) (steps : List Step) :
    Forwarded r lines steps ((start r lines).after d steps) where
  toForwards := (forwards_start r lines).after steps
  stops := fun hn => unread_after hn
  all := by
    intro hqueue hsteps hstopped
    have hstart : Alone lines (start r lines) := by
      refine ⟨rfl, fun hany => ?_⟩
      obtain ⟨i, hi, hquit⟩ := List.any_eq_true.mp hany
      rw [hqueue i hi] at hquit
      cases hquit
    have hall := (hstart.after (follows_start d r lines) hsteps).all
    rwa [unsent_of_stopped hstopped, List.append_nil] at hall

/-- A session that runs on some lines, from wherever it stands and however its steps are ordered,
does what a run does. If nobody but the exchange completes requests, those that it made and did not
settle are the ones in flight. The lines behind the first that quits are never looked at, neither
here nor in a dialogue. -/
theorem ran_on_lines (d : Device σ) (policy : Policy) (device : σ) (moves : List Exchange.Move)
    (lines : List String) (steps : List Step) :
    let r := (Record.start policy device).moveAll d moves
    let x := (start r lines).after d steps
    Ran d r x ∧ Forwarded r lines steps x ∧
    ((∀ v ∈ moves, v.isHonest = true) → (∀ e ∈ steps, e.isHonest = true) → Counted x) ∧
    (∀ before q, Command.parse q = .quit → ∃ y : Running σ, ∀ rest, ∃ unread,
      (start r (before ++ q :: rest)).after d steps = { y with unread := unread }) ∧
    ∀ (g : Dialogue) (s : Session σ), g.converse d s lines =
      ((((lines.map Command.parse).takeWhile (· ≠ .quit)).foldl
        (fun s c => g.apply d s (.command c)) s).close d).1 := by
  intro r x
  refine ⟨((follows_start d r lines).after steps).ran, forwarded_after d r lines steps, ?_,
    fun before q hq => start_before hq d r before steps,
    fun g s => g.converse_eq_foldl d s lines⟩
  intro hmoves hsteps
  have hr : r.Kept := (Record.kept_start policy device).moveAll d hmoves
  exact ((Kept.of_record hr).after hsteps).toCounted

/-- Two requests overlap, and the second one is answered. The answer to the first comes after the
session has ended, and that of the catalog waits behind the `quit`. -/
theorem ran_on_lines_of_overlap :
    let moves := [.dispatch .catalogMounted]
    let lines := ["x", ":eval", ":eval", ":q now", "y"]
    let steps := [.forward, .forward, .tick, .forward, .receive, .receive, .receive,
      .replyEval 2 (some (.ok (.string "B"))), .receive, .forward,
      .replyFetch 1 (some (.ok [⟨"id", "z"⟩])), .receive, .replyEval 1 (some (.ok (.string "A"))),
      .receive, .forward, .tick]
    let r := (Record.start .lastArrival Tank.unlimited).moveAll Tank.device moves
    let x := (start r lines).after Tank.device steps
    (∀ v ∈ moves, v.isHonest = true) ∧ (∀ e ∈ steps, e.isHonest = true) ∧ x.closed = true ∧
      x.record.pad.editor.text = "x\n" ∧ x.record.pad.editor.inFlight = [⟨1⟩] ∧
      x.record.trace.log.getLast? = some (.sessionEnded 1) ∧
      (x.record.pad.editor.inFlight ++ x.record.settled.map Prod.fst).Perm x.record.asked ∧
      x.sent = [.append "x", .submit, .submit, .quit] := by
  intro moves lines steps r x
  have hmoves : ∀ v ∈ moves, v.isHonest = true := by
    simp [moves, Exchange.Move.isHonest, Input.isPlain, Input.completion?, Input.load?,
      Message.completion?, Message.load?]
  have hsteps : ∀ e ∈ steps, e.isHonest = true := by simp [steps, Step.isHonest]
  have hclosed : x.closed = true := by decide +kernel
  have hinFlight : x.record.pad.editor.inFlight = [⟨1⟩] := by decide +kernel
  obtain ⟨hrun, hlines, hcount, _⟩ :=
    ran_on_lines Tank.device .lastArrival Tank.unlimited moves lines steps
  have hran : Ran Tank.device r x := hrun
  have hforwarded : Forwarded r lines steps x := hlines
  have hcounted : Counted x := hcount hmoves hsteps
  have hqueue : ∀ i ∈ r.queue, i.isQuit = false := fun i hi => absurd hi List.not_mem_nil
  have hsent : x.sent = Command.forwarded lines :=
    hforwarded.all hqueue (by simp [steps, Step.isQuit]) (hforwarded.stops (by decide +kernel))
  refine ⟨hmoves, hsteps, hclosed, by decide +kernel, hinFlight, ?_, hcounted.asked, ?_⟩
  · rw [hran.log hclosed, hinFlight]
    rfl
  · rw [hsent]
    decide +kernel

end Running
end Scratchpad
