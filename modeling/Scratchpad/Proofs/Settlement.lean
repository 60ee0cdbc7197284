import Scratchpad.Proofs.Exchange
import Scratchpad.Proofs.Ledger
import Scratchpad.Proofs.Transcript

/-!
# Every request is settled exactly once

The books of a record are read off the exchange and its history. Every honest move either leaves
them as they are or makes one entry: it asks, answers or settles. So they are balanced after any
honest moves in any order, and what a balanced ledger says holds of the exchange.
-/

namespace Scratchpad.Record
variable {σ : Type} (d : Device σ) (r : Record σ) (i : Input)

def ledger : Ledger :=
  { submits := r.submits
    issued := r.pad.editor.issued
    asked := r.asked
    inFlight := r.pad.editor.inFlight
    slots := r.exchange.evals
    replies := r.replies
    queued := r.exchange.completions
    settled := r.settled }

def fetchLedger : FetchLedger :=
  { phase := r.pad.catalog.phase
    asked := r.fetches
    slots := r.exchange.fetches
    replies := r.loads
    queued := r.exchange.loads
    loaded := r.loaded }

/-- All books are balanced, and the log reports the completions that were settled to no avail. -/
structure Kept : Prop where
  ledger : r.ledger.Balanced
  fetchLedger : r.fetchLedger.Balanced
  reports : r.trace.log.filter Event.isReport =
    r.dispositions.filterMap fun c => c.2.report? c.1

/-- What was asked for is in flight or settled, once. What is in flight waits or is queued, once.
Completions are replies, in their order and under the tickets of the requests that were replied to.
Every submission is accounted for, the catalog loads while its one fetch is out, and a frame is
pending while anything is in flight. -/
structure Accounted : Prop where
  asked : (r.pad.editor.inFlight ++ r.settled.map Prod.fst).Perm r.asked
  asked_nodup : r.asked.Nodup
  inFlight : r.pad.editor.inFlight.Perm
    (r.exchange.waiting ++ r.exchange.completions.map Prod.fst)
  nodup : (r.exchange.waiting ++ r.exchange.completions.map Prod.fst).Nodup
  waiting : ∀ (k : Nat) (t : Ticket), r.exchange.evals[k]? = some (some t) → r.asked[k]? = some t
  own : List.Forall₂
    (fun c a => 0 < a.1 ∧ r.asked[a.1 - 1]? = some c.1 ∧
      c.2 = a.2.getD (.error (.transport "no reply")))
    (r.settled ++ r.exchange.completions) r.replies
  once : (r.replies.map Prod.fst).Nodup
  submits : r.submits = r.pad.editor.inFlight.length + r.dispositions.countP (·.2 = .applied) +
    r.trace.log.countP Event.isStale + r.trace.log.countP Event.isEvalFailed
  reports : r.trace.log.filter Event.isReport =
    r.dispositions.filterMap fun c => c.2.report? c.1
  fetched : r.fetches ≤ 1 ∧ r.exchange.fetches.length = r.fetches ∧ r.loads.length ≤ r.fetches
  loading : r.exchange.fetches.count true + r.exchange.loads.length =
    if r.pad.catalog.phase = .loading then 1 else 0
  loads : r.loaded ++ r.exchange.loads =
    r.loads.map fun a => a.2.getD (.error (.transport "no reply"))
  pending : (Frame.ofPad r.pad).pending = true ↔
    r.exchange.waiting ++ r.exchange.completions.map Prod.fst ≠ []

variable {r i}

/-! ## Entries -/

theorem ledger_apply_of_submit (h : i.isSubmit = true) :
    (r.apply d i).ledger = r.ledger.submit := by
  have hc : i.completion? = none := by
    cases i with
    | message m => cases m <;> cases h; rfl
    | command c => rfl
  simp only [ledger, apply_submits, apply_asked, apply_evals, apply_settled, apply_completions,
    apply_pad, Pad.take_issued, Pad.take_inFlight, h, hc]
  simp [Ledger.submit, apply, goOn]

theorem ledger_apply_of_completion {c : Ticket × Outcome Json} (h : i.completion? = some c) :
    (r.apply d i).ledger = r.ledger.settle c r.exchange.completions := by
  have hs : i.isSubmit = false := by
    cases i with
    | message m => cases m <;> cases h; rfl
    | command c => cases h
  simp only [ledger, apply_submits, apply_asked, apply_evals, apply_settled, apply_completions,
    apply_pad, Pad.take_issued, Pad.take_inFlight, h, hs]
  simp [Ledger.settle, apply, goOn]

theorem ledger_apply_of_other (hs : i.isSubmit = false) (hc : i.completion? = none) :
    (r.apply d i).ledger = r.ledger := by
  simp only [ledger, apply_submits, apply_asked, apply_evals, apply_settled, apply_completions,
    apply_pad, Pad.take_issued, Pad.take_inFlight, hs, hc]
  simp [apply, goOn]

theorem fetchLedger_apply_of_load {outcome : Outcome (List Entry)} (h : i.load? = some outcome)
    (hp : r.pad.catalog.phase = .loading) :
    (r.apply d i).pad.catalog.phase.isSettled = true ∧ (r.apply d i).fetchLedger =
      r.fetchLedger.load (r.apply d i).pad.catalog.phase outcome r.exchange.loads := by
  obtain ⟨hsettled, hcount⟩ := r.exchange.session.apply_load d h hp
  rw [pad, apply_session]
  refine ⟨hsettled, ?_⟩
  simp only [fetchLedger, apply_fetches, apply_slots, apply_loaded, apply_loads, hcount, h, pad,
    apply_session]
  simp [FetchLedger.load, apply, goOn]

theorem fetchLedger_apply_of_other (h : i.load? = none) :
    (r.apply d i).fetchLedger = r.fetchLedger ∨
      (r.pad.catalog.phase = .unmounted ∧ (r.apply d i).fetchLedger = r.fetchLedger.fetch) := by
  obtain ⟨hp, hcount⟩ | ⟨hunmounted, hp, hcount⟩ := r.exchange.session.apply_fetch d h
  · left
    simp only [fetchLedger, apply_fetches, apply_slots, apply_loaded, apply_loads, hcount, h, pad,
      apply_session, hp]
    simp [apply, goOn]
  · right
    refine ⟨hunmounted, ?_⟩
    simp only [fetchLedger, apply_fetches, apply_slots, apply_loaded, apply_loads, hcount, h, pad,
      apply_session, hp]
    simp [FetchLedger.fetch, apply, goOn]

/-! ## One move -/

theorem kept_start (policy : Policy) (device : σ) : (start policy device).Kept where
  ledger := ⟨rfl, rfl, rfl, rfl, rfl, List.nodup_nil, fun _ hn => absurd hn List.not_mem_nil⟩
  fetchLedger := ⟨rfl, .unasked, rfl, rfl⟩
  reports := rfl

namespace Kept

/-- A plain input is no entry of the queue. -/
theorem withQueue (h : r.Kept) {queue : List Input}
    (hc : queue.filterMap Input.completion? = r.exchange.completions)
    (hl : queue.filterMap Input.load? = r.exchange.loads) : (r.withQueue queue).Kept where
  ledger := by
    have he : (r.withQueue queue).ledger = r.ledger := by
      change { r.ledger with queued := queue.filterMap Input.completion? } = r.ledger
      rw [hc]
      rfl
    rw [he]
    exact h.ledger
  fetchLedger := by
    have he : (r.withQueue queue).fetchLedger = r.fetchLedger := by
      change { r.fetchLedger with queued := queue.filterMap Input.load? } = r.fetchLedger
      rw [hl]
      rfl
    rw [he]
    exact h.fetchLedger
  reports := h.reports

/-- Applies the input at the head of the queue. -/
theorem apply (h : (r.withQueue (i :: r.queue)).Kept) : (r.apply d i).Kept where
  ledger := by
    have hl := h.ledger
    cases hc : i.completion? with
    | some c =>
      have hq : (r.withQueue (i :: r.queue)).ledger.queued = c :: r.exchange.completions :=
        List.filterMap_cons_some hc
      rw [ledger_apply_of_completion d hc]
      exact hl.settle hq
    | none =>
      have he : (r.withQueue (i :: r.queue)).ledger = r.ledger := by
        change { r.ledger with queued := (i :: r.queue).filterMap Input.completion? } = r.ledger
        rw [List.filterMap_cons_none hc]
        rfl
      rw [he] at hl
      cases hs : i.isSubmit with
      | true =>
        rw [ledger_apply_of_submit d hs]
        exact hl.submit
      | false =>
        rw [ledger_apply_of_other d hs hc]
        exact hl
  fetchLedger := by
    have hf := h.fetchLedger
    cases hl : i.load? with
    | some outcome =>
      have hq : (r.withQueue (i :: r.queue)).fetchLedger.queued = outcome :: r.exchange.loads :=
        List.filterMap_cons_some hl
      have hp : r.pad.catalog.phase = .loading :=
        hf.stage.phase_of_queued (by rw [hq]; exact List.cons_ne_nil _ _)
      obtain ⟨hsettled, he⟩ := fetchLedger_apply_of_load d hl hp
      rw [he]
      exact hf.load hq hsettled
    | none =>
      have he : (r.withQueue (i :: r.queue)).fetchLedger = r.fetchLedger := by
        change { r.fetchLedger with queued := (i :: r.queue).filterMap Input.load? } = r.fetchLedger
        rw [List.filterMap_cons_none hl]
        rfl
      rw [he] at hf
      obtain he | ⟨hp, he⟩ := fetchLedger_apply_of_other d hl
      · rw [he]
        exact hf
      · rw [he]
        exact hf.fetch hp
  reports := by
    rw [apply_log, apply_dispositions, List.filterMap_append]
    have hr : r.trace.log.filter Event.isReport =
      r.dispositions.filterMap fun c => c.2.report? c.1 := h.reports
    rw [hr]
    cases r.pad.disposition? i with
    | none => rfl
    | some c => cases hc : c.2.report? c.1 <;> simp [hc]

theorem dispatch (h : r.Kept) {m : Message} (hm : (Input.message m).isPlain = true) :
    (r.move d (.dispatch m)).Kept := by
  rw [move_dispatch]
  refine apply d (h.withQueue ?_ ?_)
  · exact List.filterMap_cons_none (Input.completion?_of_isPlain hm)
  · exact List.filterMap_cons_none (Input.load?_of_isPlain hm)

theorem redraw (h : r.Kept) : (r.move d .redraw).Kept := by
  have hl : (r.move d .redraw).ledger = r.ledger := by
    rw [move_redraw]
    simp only [Record.ledger, asked, Trace.append_requests, Session.redraw_requests,
      List.append_nil]
    rfl
  have hf : (r.move d .redraw).fetchLedger = r.fetchLedger := by
    rw [move_redraw]
    simp only [Record.fetchLedger, fetches, Trace.append_requests, Session.redraw_requests,
      List.append_nil]
    rfl
  refine ⟨?_, ?_, ?_⟩
  · rw [hl]
    exact h.ledger
  · rw [hf]
    exact h.fetchLedger
  · rw [move_redraw, Trace.append_log, List.filter_append, Session.redraw_reports, List.append_nil]
    exact h.reports

theorem send (h : r.Kept) (hi : i.isPlain = true) : (r.move d (.send i)).Kept := by
  change (r.withQueue (r.queue ++ [i])).Kept
  refine h.withQueue ?_ ?_
  · rw [List.filterMap_append, List.filterMap_cons_none (Input.completion?_of_isPlain hi)]
    exact List.append_nil _
  · rw [List.filterMap_append, List.filterMap_cons_none (Input.load?_of_isPlain hi)]
    exact List.append_nil _

theorem settle (h : r.Kept) : (r.move d .settle).Kept := by
  cases hq : r.queue with
  | nil =>
    rw [move_settle_of_empty d r hq]
    exact h
  | cons i rest =>
    rw [move_settle_of_cons d r i hq]
    refine apply d (h.withQueue ?_ ?_)
    · exact congrArg (List.filterMap Input.completion?) hq.symm
    · exact congrArg (List.filterMap Input.load?) hq.symm

theorem replyEval (h : r.Kept) (n : Nat) (reply : Option (Outcome Json)) :
    (r.move d (.replyEval n reply)).Kept := by
  obtain hr | ⟨k, t, hk, hr⟩ := r.move_replyEval d n reply
  · rw [hr]
    exact h
  · have hl : (r.move d (.replyEval n reply)).ledger = r.ledger.answer k t reply := by
      rw [hr]
      simp only [Record.ledger, Exchange.completions, Exchange.enqueue, Session.enqueue,
        List.filterMap_append]
      rfl
    have hf : (r.move d (.replyEval n reply)).fetchLedger = r.fetchLedger := by
      rw [hr]
      simp only [Record.fetchLedger, Exchange.loads, Exchange.enqueue, Session.enqueue,
        List.filterMap_append]
      exact congrArg (FetchLedger.mk _ _ _ _ · _) (List.append_nil _)
    refine ⟨?_, ?_, ?_⟩
    · rw [hl]
      exact h.ledger.answer hk reply
    · rw [hf]
      exact h.fetchLedger
    · rw [hr]
      exact h.reports

theorem replyFetch (h : r.Kept) (n : Nat) (reply : Option (Outcome (List Entry))) :
    (r.move d (.replyFetch n reply)).Kept := by
  obtain hr | ⟨k, hk, hr⟩ := r.move_replyFetch d n reply
  · rw [hr]
    exact h
  · have hl : (r.move d (.replyFetch n reply)).ledger = r.ledger := by
      rw [hr]
      simp only [Record.ledger, Exchange.completions, Exchange.enqueue, Session.enqueue,
        List.filterMap_append]
      exact congrArg (Ledger.mk _ _ _ _ _ _ · _) (List.append_nil _)
    have hf : (r.move d (.replyFetch n reply)).fetchLedger = r.fetchLedger.answer k reply := by
      rw [hr]
      simp only [Record.fetchLedger, Exchange.loads, Exchange.enqueue, Session.enqueue,
        List.filterMap_append]
      rfl
    refine ⟨?_, ?_, ?_⟩
    · rw [hl]
      exact h.ledger
    · rw [hf]
      exact h.fetchLedger.answer hk reply
    · rw [hr]
      exact h.reports

/-- Every honest move keeps the books. -/
theorem move (h : r.Kept) {v : Exchange.Move} (hv : v.isHonest = true) : (r.move d v).Kept := by
  cases v with
  | dispatch m => exact h.dispatch d hv
  | redraw => exact h.redraw d
  | send i => exact h.send d hv
  | settle => exact h.settle d
  | replyEval n reply => exact h.replyEval d n reply
  | replyFetch n reply => exact h.replyFetch d n reply

theorem moveAll (h : r.Kept) {moves : List Exchange.Move}
    (hm : ∀ v ∈ moves, v.isHonest = true) : (r.moveAll d moves).Kept := by
  induction moves generalizing r with
  | nil => exact h
  | cons v rest ih =>
    exact ih (h.move d (hm v List.mem_cons_self)) fun w hw => hm w (List.mem_cons_of_mem v hw)

end Kept
/-! ## What the books say -/

theorem map_fst_dispositions : r.dispositions.map Prod.fst = r.settled.map Prod.fst := by
  rw [dispositions, settled, List.map_filterMap, List.map_filterMap]
  apply List.filterMap_congr
  intro a _
  exact a.1.disposition?_fst a.2

theorem length_reports (cs : List (Ticket × Disposition)) : cs.length =
    cs.countP (·.2 = .applied) + (cs.filterMap fun c => c.2.report? c.1).length := by
  induction cs with
  | nil => rfl
  | cons c rest ih =>
    obtain ⟨t, disposition⟩ := c
    cases disposition <;> simp [ih, Disposition.report?] <;> omega

theorem length_isReport (log : List Event) : (log.filter Event.isReport).length =
    log.countP Event.isStale + log.countP Event.isEvalFailed := by
  induction log with
  | nil => rfl
  | cons e rest ih =>
    rw [List.countP_cons, List.countP_cons]
    cases e <;> simp [ih, Event.isReport, Event.isStale, Event.isEvalFailed] <;> omega

theorem pending_iff {p : Pad} : (Frame.ofPad p).pending = true ↔ p.editor.inFlight ≠ [] := by
  simp [Frame.ofPad, Editor.isPending]

theorem Kept.accounted (h : r.Kept) : r.Accounted where
  asked := h.ledger.asked_perm
  asked_nodup := h.ledger.nodup_asked
  inFlight := h.ledger.inFlight_perm
  nodup := h.ledger.inFlight_perm.nodup_iff.mp h.ledger.nodup_inFlight
  waiting := by
    intro k t hk
    obtain ⟨hlt, _, rfl⟩ := h.ledger.slot hk
    change r.ledger.asked[k]? = some ⟨k + 1⟩
    rw [h.ledger.asked, Ticket.getElem?_upTo hlt]
  own := h.ledger.own
  once := h.ledger.once
  submits := by
    have hsettled : r.settled.length = r.dispositions.length := by
      have hlength := congrArg List.length r.map_fst_dispositions
      rwa [List.length_map, List.length_map, eq_comm] at hlength
    calc
      r.submits = r.pad.editor.inFlight.length + r.settled.length := h.ledger.submits_eq
      _ = _ := by
        rw [hsettled, length_reports, ← h.reports, length_isReport]
        omega
  reports := h.reports
  fetched := by
    have hasked : r.exchange.fetches.length = r.fetches := h.fetchLedger.asked
    have hnumbers := congrArg List.length h.fetchLedger.numbers
    rw [List.length_map, List.length_replicate] at hnumbers
    refine ⟨?_, hasked, ?_⟩
    · rw [← hasked]
      exact h.fetchLedger.stage.length_slots_le
    · rw [← hasked]
      exact hnumbers.trans_le List.count_le_length
  loading := h.fetchLedger.stage.loading_eq
  loads := h.fetchLedger.answers
  pending := by
    rw [pending_iff, ← List.length_pos_iff, ← List.length_pos_iff]
    exact iff_of_eq (congrArg (0 < ·) h.ledger.inFlight_perm.length_eq)

/-- No move, honest or not, leaves another frame than that of the pad in the memory of a screen on
a willing device. -/
theorem synced_move {I : σ → Prop} (hd : d.Willing I) (h : r.exchange.session.Synced I)
    (v : Exchange.Move) : (r.move d v).exchange.session.Synced I := by
  cases v with
  | dispatch m =>
    rw [move_dispatch, apply_session]
    exact Session.apply_synced hd h _
  | redraw =>
    rw [move_redraw]
    exact (Session.current_redraw hd _ h.device).synced
  | send i => exact ⟨h.remembered, h.device⟩
  | settle =>
    cases hq : r.queue with
    | nil =>
      rw [move_settle_of_empty d r hq]
      exact h
    | cons i rest =>
      rw [move_settle_of_cons d r i hq, apply_session]
      have hrest : (r.withQueue rest).exchange.session.Synced I := ⟨h.remembered, h.device⟩
      exact Session.apply_synced hd hrest i
  | replyEval n reply =>
    obtain hr | ⟨k, t, _, hr⟩ := r.move_replyEval d n reply
    · rw [hr]
      exact h
    · rw [hr]
      exact ⟨h.remembered, h.device⟩
  | replyFetch n reply =>
    obtain hr | ⟨k, _, hr⟩ := r.move_replyFetch d n reply
    · rw [hr]
      exact h
    · rw [hr]
      exact ⟨h.remembered, h.device⟩

theorem synced_moveAll {I : σ → Prop} (hd : d.Willing I) (h : r.exchange.session.Synced I)
    (moves : List Exchange.Move) : (r.moveAll d moves).exchange.session.Synced I := by
  induction moves generalizing r with
  | nil => exact h
  | cons v rest ih => exact ih (synced_move d hd h v)

/-- After any honest moves in any order every request is accounted for, exactly once; on a willing
device the last frame that was drawn is pending exactly while anything is in flight. -/
theorem accounted_of_honest (policy : Policy) (device : σ) {moves : List Exchange.Move}
    (hm : ∀ v ∈ moves, v.isHonest = true) :
    ((start policy device).moveAll d moves).Accounted ∧
    ∀ I : σ → Prop, d.Willing I → I device →
      ∀ f, ((start policy device).moveAll d moves).exchange.session.screen.last = some f →
        (f.pending = true ↔
          ((start policy device).moveAll d moves).pad.editor.inFlight ≠ []) := by
  refine ⟨((kept_start policy device).moveAll d hm).accounted, ?_⟩
  intro I hd hdevice f hf
  have hstart : (start policy device).exchange.session.Synced I :=
    ⟨fun _ hnone => (Option.some_ne_none _ hnone.symm).elim, hdevice⟩
  rw [(synced_moveAll d hd hstart moves).remembered f hf]
  exact pending_iff

/-- Two submissions overlap. The reply to the second one is dropped and its completion applied, then
the first one is answered, and a second answer to it finds nobody. -/
theorem accounted_of_overlap :
    let moves := [.dispatch .catalogMounted, .dispatch .submit, .send (.command .submit), .settle,
      .replyEval 2 none, .settle, .replyFetch 1 (some (.ok [])), .replyEval 1 (some (.ok .null)),
      .replyEval 1 none]
    let r := (start .latestIssued Tank.unlimited).moveAll Tank.device moves
    (∀ v ∈ moves, v.isHonest = true) ∧ r.Accounted ∧ r.submits = 2 ∧
      r.pad.editor.inFlight = [⟨1⟩] ∧ r.exchange.waiting = [] ∧
      Tank.device.Willing (· = .unlimited) ∧
      (∀ f, r.exchange.session.screen.last = some f →
        (f.pending = true ↔ r.pad.editor.inFlight ≠ [])) := by
  intro moves r
  have hm : ∀ v ∈ moves, v.isHonest = true := by
    simp [moves, Exchange.Move.isHonest, Input.isPlain, Input.completion?, Input.load?,
      Message.completion?, Message.load?]
  obtain ⟨haccounted, hframe⟩ :=
    accounted_of_honest Tank.device .latestIssued Tank.unlimited hm
  exact ⟨hm, haccounted, rfl, rfl, rfl, Tank.device_willing, hframe _ Tank.device_willing rfl⟩

end Scratchpad.Record
