import Mathlib.Data.List.Forall2
import Scratchpad.Exchange
import Scratchpad.Proofs.Pad

/-!
# Ledgers of requests

A ledger keeps the books on evaluation requests: which were asked for, which still wait in their
slot, which replies reached one, and which completions are queued and settled. In a balanced ledger
the replies and the completions are the same list, so every request is completed once, under its own
ticket and with the outcome given to it, and what is in flight either waits or is queued. Asking,
answering and settling keep a ledger balanced, in whatever order they come. The books on fetches are
simpler: there is one at most, and it runs through four stages.
-/

namespace Scratchpad

structure Ledger where
  submits : Nat
  issued : Nat
  asked : List Ticket
  inFlight : List Ticket
  slots : List (Option Ticket)
  replies : List (Nat × Option (Outcome Json))
  queued : List (Ticket × Outcome Json)
  settled : List (Ticket × Outcome Json)

namespace Ledger

/-- One more submission. -/
def submit (l : Ledger) : Ledger :=
  { l with
    submits := l.submits + 1
    issued := l.issued + 1
    asked := l.asked ++ [⟨l.issued + 1⟩]
    inFlight := l.inFlight ++ [⟨l.issued + 1⟩]
    slots := l.slots ++ [some ⟨l.issued + 1⟩] }

/-- A reply to the request with the ticket `t` in the slot `k`. -/
def answer (l : Ledger) (k : Nat) (t : Ticket) (reply : Option (Outcome Json)) : Ledger :=
  { l with
    slots := l.slots.set k none
    replies := l.replies ++ [(k + 1, reply)]
    queued := l.queued ++ [(t, reply.getD Exchange.noReply)] }

/-- The oldest completion in the queue, `c`, is settled, and `rest` is left. -/
def settle (l : Ledger) (c : Ticket × Outcome Json) (rest : List (Ticket × Outcome Json)) :
    Ledger :=
  { l with
    inFlight := l.inFlight.filter (· ≠ c.1)
    queued := rest
    settled := l.settled ++ [c] }

structure Balanced (l : Ledger) : Prop where
  issued : l.issued = l.submits
  asked : l.asked = Ticket.upTo l.issued
  inFlight : l.inFlight = (Ticket.upTo l.issued).filter (· ∉ l.settled.map Prod.fst)
  slots : l.slots = (List.range l.issued).map fun k =>
    if k + 1 ∈ l.replies.map Prod.fst then none else some ⟨k + 1⟩
  answers : l.settled ++ l.queued = l.replies.map fun a => (⟨a.1⟩, a.2.getD Exchange.noReply)
  once : (l.replies.map Prod.fst).Nodup
  known : ∀ n ∈ l.replies.map Prod.fst, 0 < n ∧ n ≤ l.issued

namespace Balanced
variable {l : Ledger}

theorem tickets (h : l.Balanced) :
    (l.settled ++ l.queued).map Prod.fst = (l.replies.map Prod.fst).map Ticket.mk := by
  rw [h.answers, List.map_map, List.map_map]
  rfl

theorem mem_tickets_iff (h : l.Balanced) {t : Ticket} :
    t ∈ (l.settled ++ l.queued).map Prod.fst ↔ t.index ∈ l.replies.map Prod.fst := by
  rw [h.tickets, List.mem_map]
  constructor
  · rintro ⟨n, hn, rfl⟩
    exact hn
  · intro ht
    exact ⟨t.index, ht, rfl⟩

theorem nodup_tickets (h : l.Balanced) : ((l.settled ++ l.queued).map Prod.fst).Nodup := by
  rw [h.tickets]
  refine h.once.map ?_
  intro a b hab
  exact congrArg Ticket.index hab

theorem mem_replies_of_settled (h : l.Balanced) {t : Ticket} (ht : t ∈ l.settled.map Prod.fst) :
    t.index ∈ l.replies.map Prod.fst := by
  rw [← h.mem_tickets_iff, List.map_append]
  exact List.mem_append_left _ ht

/-! ## What keeps a ledger balanced -/

theorem submit (h : l.Balanced) : l.submit.Balanced where
  issued := congrArg (· + 1) h.issued
  asked := by
    change l.asked ++ _ = Ticket.upTo (l.issued + 1)
    rw [h.asked, Ticket.upTo_succ]
  inFlight := by
    have hnew : (⟨l.issued + 1⟩ : Ticket) ∉ l.settled.map Prod.fst := by
      intro hm
      have hle := (h.known _ (h.mem_replies_of_settled hm)).2
      exact absurd hle (Nat.not_succ_le_self _)
    change l.inFlight ++ _ = (Ticket.upTo (l.issued + 1)).filter (· ∉ l.settled.map Prod.fst)
    rw [Ticket.upTo_succ, List.filter_append, ← h.inFlight, List.filter_singleton]
    simp [hnew]
  slots := by
    have hnew : l.issued + 1 ∉ l.replies.map Prod.fst := by
      intro hm
      exact absurd (h.known _ hm).2 (Nat.not_succ_le_self _)
    change l.slots ++ _ = (List.range (l.issued + 1)).map _
    rw [List.range_succ, List.map_append, h.slots, List.map_singleton]
    exact congrArg (_ ++ [·]) (if_neg hnew).symm
  answers := h.answers
  once := h.once
  known := fun n hn => ⟨(h.known n hn).1, Nat.le_succ_of_le (h.known n hn).2⟩

theorem slot (h : l.Balanced) {k : Nat} {t : Ticket} (hk : l.slots[k]? = some (some t)) :
    k < l.issued ∧ k + 1 ∉ l.replies.map Prod.fst ∧ t = ⟨k + 1⟩ := by
  rw [h.slots, List.getElem?_map, Option.map_eq_some_iff] at hk
  obtain ⟨j, hj, ht⟩ := hk
  obtain ⟨hlt, rfl⟩ := List.getElem?_eq_some_iff.mp hj
  rw [List.getElem_range] at ht
  rw [List.length_range] at hlt
  split at ht
  next hm => cases ht
  next hm => exact ⟨hlt, hm, (Option.some.inj ht).symm⟩

theorem answer (h : l.Balanced) {k : Nat} {t : Ticket} (hk : l.slots[k]? = some (some t))
    (reply : Option (Outcome Json)) : (l.answer k t reply).Balanced := by
  obtain ⟨hlt, hnew, rfl⟩ := h.slot hk
  have hr : (l.answer k ⟨k + 1⟩ reply).replies.map Prod.fst =
      l.replies.map Prod.fst ++ [k + 1] := by
    simp [Ledger.answer]
  refine ⟨h.issued, h.asked, h.inFlight, ?_, ?_, ?_, ?_⟩
  · change l.slots.set k none = _
    rw [hr, h.slots]
    apply List.ext_getElem
    · simp [Ledger.answer]
    · intro j _ _
      rw [List.getElem_set, List.getElem_map, List.getElem_map, List.getElem_range,
        List.getElem_range]
      by_cases hj : k = j
      · simp [hj]
      · have hm : j + 1 ∈ l.replies.map Prod.fst ++ [k + 1] ↔ j + 1 ∈ l.replies.map Prod.fst := by
          rw [List.mem_append, List.mem_singleton, Nat.succ_inj, or_iff_left (Ne.symm hj)]
        simp only [hj, hm, if_false]
  · change l.settled ++ (l.queued ++ _) = (l.replies ++ _).map _
    rw [← List.append_assoc, h.answers, List.map_append]
    rfl
  · rw [hr]
    exact List.nodup_append.mpr ⟨h.once, List.nodup_singleton _, by grind⟩
  · rw [hr]
    intro n hn
    obtain hn | hn := List.mem_append.mp hn
    · exact h.known n hn
    · obtain rfl := List.mem_singleton.mp hn
      exact ⟨Nat.succ_pos k, hlt⟩

theorem settle (h : l.Balanced) {c : Ticket × Outcome Json}
    {rest : List (Ticket × Outcome Json)} (hc : l.queued = c :: rest) :
    (l.settle c rest).Balanced where
  issued := h.issued
  asked := h.asked
  inFlight := by
    change l.inFlight.filter _ = (Ticket.upTo l.issued).filter (· ∉ (l.settled ++ [c]).map Prod.fst)
    rw [h.inFlight, List.filter_filter, List.map_append]
    apply List.filter_congr
    intro t _
    rw [← Bool.decide_and, decide_eq_decide, List.mem_append, not_or, and_comm]
    exact and_congr_right' (not_congr List.mem_singleton.symm)
  slots := h.slots
  answers := by
    change l.settled ++ [c] ++ rest = _
    rw [List.append_assoc, List.singleton_append, ← hc, h.answers]
    rfl
  once := h.once
  known := h.known

/-! ## What a balanced ledger says -/

theorem waiting_eq (h : l.Balanced) : l.slots.filterMap id =
    (Ticket.upTo l.issued).filter (·.index ∉ l.replies.map Prod.fst) := by
  rw [h.slots, Ticket.upTo, List.filterMap_map, ← List.filterMap_eq_filter, List.filterMap_map]
  apply List.filterMap_congr
  intro k _
  by_cases hk : k + 1 ∈ l.replies.map Prod.fst <;> simp [Option.guard, hk]

theorem nodup_waiting (h : l.Balanced) : (l.slots.filterMap id).Nodup := by
  rw [h.waiting_eq]
  exact (Ticket.nodup_upTo _).filter _

theorem mem_waiting_iff (h : l.Balanced) {t : Ticket} :
    t ∈ l.slots.filterMap id ↔ t ∈ Ticket.upTo l.issued ∧ t.index ∉ l.replies.map Prod.fst := by
  rw [h.waiting_eq, List.mem_filter, decide_eq_true_iff]

theorem nodup_inFlight (h : l.Balanced) : l.inFlight.Nodup := by
  rw [h.inFlight]
  exact (Ticket.nodup_upTo _).filter _

theorem mem_inFlight_iff (h : l.Balanced) {t : Ticket} :
    t ∈ l.inFlight ↔ t ∈ Ticket.upTo l.issued ∧ t ∉ l.settled.map Prod.fst := by
  rw [h.inFlight, List.mem_filter, decide_eq_true_iff]

/-- What is in flight either waits or is queued, and not both. -/
theorem inFlight_perm (h : l.Balanced) :
    l.inFlight.Perm (l.slots.filterMap id ++ l.queued.map Prod.fst) := by
  have hq := h.nodup_tickets
  rw [List.map_append, List.nodup_append] at hq
  have hdisjoint : ∀ t ∈ l.slots.filterMap id, ∀ t' ∈ l.queued.map Prod.fst, t ≠ t' := by
    rintro t ht _ ht' rfl
    refine (h.mem_waiting_iff.mp ht).2 (h.mem_tickets_iff.mp ?_)
    rw [List.map_append]
    exact List.mem_append_right _ ht'
  have hnodup := List.nodup_append.mpr ⟨h.nodup_waiting, hq.2.1, hdisjoint⟩
  rw [List.perm_ext_iff_of_nodup h.nodup_inFlight hnodup]
  intro t
  rw [h.mem_inFlight_iff, List.mem_append, h.mem_waiting_iff]
  constructor
  · rintro ⟨hu, hs⟩
    by_cases hn : t.index ∈ l.replies.map Prod.fst
    · have ht := h.mem_tickets_iff.mpr hn
      rw [List.map_append, List.mem_append] at ht
      exact .inr (ht.resolve_left hs)
    · exact .inl ⟨hu, hn⟩
  · rintro (⟨hu, hn⟩ | ht)
    · exact ⟨hu, fun hs => hn (h.mem_replies_of_settled hs)⟩
    · have hn : t.index ∈ l.replies.map Prod.fst := by
        rw [← h.mem_tickets_iff, List.map_append]
        exact List.mem_append_right _ ht
      exact ⟨Ticket.mem_upTo.mpr (h.known _ hn), fun hs => hq.2.2 t hs t ht rfl⟩

/-- What was asked for is in flight or settled, and not both. -/
theorem asked_perm (h : l.Balanced) : (l.inFlight ++ l.settled.map Prod.fst).Perm l.asked := by
  have hs := h.nodup_tickets
  rw [List.map_append, List.nodup_append] at hs
  have hdisjoint : ∀ t ∈ l.inFlight, ∀ t' ∈ l.settled.map Prod.fst, t ≠ t' := by
    rintro t ht _ ht' rfl
    exact (h.mem_inFlight_iff.mp ht).2 ht'
  have hnodup := List.nodup_append.mpr ⟨h.nodup_inFlight, hs.1, hdisjoint⟩
  rw [h.asked, List.perm_ext_iff_of_nodup hnodup (Ticket.nodup_upTo _)]
  intro t
  rw [List.mem_append, h.mem_inFlight_iff]
  constructor
  · rintro (⟨hu, _⟩ | ht)
    · exact hu
    · exact Ticket.mem_upTo.mpr (h.known _ (h.mem_replies_of_settled ht))
  · intro hu
    by_cases ht : t ∈ l.settled.map Prod.fst
    · exact .inr ht
    · exact .inl ⟨hu, ht⟩

theorem nodup_asked (h : l.Balanced) : l.asked.Nodup := by
  rw [h.asked]
  exact Ticket.nodup_upTo _

/-- Every submission is in flight or settled. -/
theorem submits_eq (h : l.Balanced) : l.submits = l.inFlight.length + l.settled.length := by
  have hlength := h.asked_perm.length_eq
  rw [List.length_append, List.length_map, h.asked, Ticket.length_upTo] at hlength
  rw [← h.issued, hlength]

/-- Every completion carries the ticket of the request that was replied to, and the outcome of that
reply. -/
theorem own (h : l.Balanced) : List.Forall₂
    (fun c a => 0 < a.1 ∧ l.asked[a.1 - 1]? = some c.1 ∧ c.2 = a.2.getD Exchange.noReply)
    (l.settled ++ l.queued) l.replies := by
  rw [h.answers, List.forall₂_map_left_iff, List.forall₂_same]
  intro a ha
  obtain ⟨hpos, hle⟩ := h.known a.1 (List.mem_map.mpr ⟨a, ha, rfl⟩)
  refine ⟨hpos, ?_, rfl⟩
  rw [h.asked, Ticket.getElem?_upTo (by omega)]
  congr 2
  omega

end Balanced
end Ledger

/-! ## Fetches -/

structure FetchLedger where
  phase : Phase
  asked : Nat
  slots : List Bool
  replies : List (Nat × Option (Outcome (List Entry)))
  queued : List (Outcome (List Entry))
  loaded : List (Outcome (List Entry))

namespace FetchLedger

/-- The load starts. -/
def fetch (l : FetchLedger) : FetchLedger :=
  { l with phase := .loading, asked := l.asked + 1, slots := l.slots ++ [true] }

/-- A reply to the fetch in the slot `k`. -/
def answer (l : FetchLedger) (k : Nat) (reply : Option (Outcome (List Entry))) : FetchLedger :=
  { l with
    slots := l.slots.set k false
    replies := l.replies ++ [(k + 1, reply)]
    queued := l.queued ++ [reply.getD Exchange.noReply] }

/-- The oldest completion in the queue ends the load. -/
def load (l : FetchLedger) (phase : Phase) (outcome : Outcome (List Entry))
    (rest : List (Outcome (List Entry))) : FetchLedger :=
  { l with phase, queued := rest, loaded := l.loaded ++ [outcome] }

/-- The phase, the slots and the queued completions in the course of a load. -/
inductive Stage : Phase → List Bool → List (Outcome (List Entry)) → Prop
  | unasked : Stage .unmounted [] []
  | waiting : Stage .loading [true] []
  | answered (outcome : Outcome (List Entry)) : Stage .loading [false] [outcome]
  | settled {phase : Phase} (h : phase.isSettled = true) : Stage phase [false] []

namespace Stage
variable {phase : Phase} {slots : List Bool} {queued : List (Outcome (List Entry))}

theorem fetch (h : Stage .unmounted slots queued) : Stage .loading (slots ++ [true]) queued := by
  cases h with
  | unasked => exact .waiting
  | settled h => cases h

theorem answer (h : Stage phase slots queued) {k : Nat} (hk : slots[k]? = some true)
    (outcome : Outcome (List Entry)) :
    k = 0 ∧ slots = [true] ∧ Stage phase (slots.set k false) (queued ++ [outcome]) := by
  cases h with
  | unasked => cases hk
  | waiting =>
    cases k with
    | zero => exact ⟨rfl, rfl, .answered outcome⟩
    | succ k => cases hk
  | answered outcome' => cases k <;> cases hk
  | settled h => cases k <;> cases hk

theorem load {outcome : Outcome (List Entry)} (h : Stage phase slots (outcome :: queued))
    {phase' : Phase} (hp : phase'.isSettled = true) : Stage phase' slots queued := by
  cases h with
  | answered outcome => exact .settled hp

theorem phase_of_queued (h : Stage phase slots queued) (hq : queued ≠ []) : phase = .loading := by
  cases h with
  | answered outcome => rfl
  | _ => contradiction

theorem length_slots_le (h : Stage phase slots queued) : slots.length ≤ 1 := by
  cases h with
  | unasked => exact Nat.zero_le 1
  | _ => exact Nat.le_refl 1

theorem loading_eq (h : Stage phase slots queued) :
    slots.count true + queued.length = if phase = .loading then 1 else 0 := by
  cases h with
  | settled h => cases phase <;> cases h <;> rfl
  | _ => rfl

end Stage

structure Balanced (l : FetchLedger) : Prop where
  asked : l.slots.length = l.asked
  stage : Stage l.phase l.slots l.queued
  answers : l.loaded ++ l.queued = l.replies.map fun a => a.2.getD Exchange.noReply
  numbers : l.replies.map Prod.fst = List.replicate (l.slots.count false) 1

namespace Balanced
variable {l : FetchLedger}

theorem fetch (h : l.Balanced) (hp : l.phase = .unmounted) : l.fetch.Balanced where
  asked := by
    change (l.slots ++ [true]).length = l.asked + 1
    rw [List.length_append, h.asked, List.length_singleton]
  stage := by
    have hs := h.stage
    rw [hp] at hs
    exact hs.fetch
  answers := h.answers
  numbers := by
    change l.replies.map Prod.fst = List.replicate ((l.slots ++ [true]).count false) 1
    rw [h.numbers, List.count_append]
    rfl

theorem answer (h : l.Balanced) {k : Nat} (hk : l.slots[k]? = some true)
    (reply : Option (Outcome (List Entry))) : (l.answer k reply).Balanced := by
  obtain ⟨rfl, hslots, hstage⟩ := h.stage.answer hk (reply.getD Exchange.noReply)
  refine ⟨?_, hstage, ?_, ?_⟩
  · change (l.slots.set 0 false).length = l.asked
    rw [List.length_set, h.asked]
  · change l.loaded ++ (l.queued ++ _) = (l.replies ++ _).map _
    rw [← List.append_assoc, h.answers, List.map_append]
    rfl
  · change (l.replies ++ _).map Prod.fst = List.replicate ((l.slots.set 0 false).count false) 1
    rw [List.map_append, h.numbers, hslots]
    rfl

theorem load (h : l.Balanced) {outcome : Outcome (List Entry)}
    {rest : List (Outcome (List Entry))} (hq : l.queued = outcome :: rest) {phase : Phase}
    (hp : phase.isSettled = true) : (l.load phase outcome rest).Balanced where
  asked := h.asked
  stage := by
    have hs := h.stage
    rw [hq] at hs
    exact hs.load hp
  answers := by
    change l.loaded ++ [outcome] ++ rest = _
    rw [List.append_assoc, List.singleton_append, ← hq, h.answers]
    rfl
  numbers := h.numbers

end Balanced
end FetchLedger
end Scratchpad
