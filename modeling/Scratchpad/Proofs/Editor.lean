import Mathlib.Data.List.Induction
import Mathlib.Data.List.Nodup
import Scratchpad.Editor
import Scratchpad.Proofs.History

/-!
# Laws of the editor

What each operation does to the parts of an editor. Taking a ticket touches only the count of
tickets and the list of those in flight. Settling a ticket strikes it from that list and touches
nothing else but the result, which it replaces only by a value that no later request supersedes.

Responses may come with any ticket: one that is settled, one of another editor, or one that is not
taken yet. Under `latestIssued` only those with the ticket taken last replace the result, once a
ticket is taken; until then every value does.
-/

namespace Scratchpad

/-- The first `n` tickets, in the order in which they are taken. -/
def Ticket.upTo (n : Nat) : List Ticket :=
  (List.range n).map fun k => ⟨k + 1⟩

namespace Ticket

theorem upTo_succ (n : Nat) : upTo (n + 1) = upTo n ++ [⟨n + 1⟩] := by
  simp [upTo, List.range_succ]

@[simp] theorem length_upTo (n : Nat) : (upTo n).length = n := by
  simp [upTo]

theorem getElem?_upTo {n k : Nat} (h : k < n) : (upTo n)[k]? = some ⟨k + 1⟩ := by
  simp [upTo, h]

theorem mem_upTo {n : Nat} {t : Ticket} : t ∈ upTo n ↔ 0 < t.index ∧ t.index ≤ n := by
  simp only [upTo, List.mem_map, List.mem_range]
  constructor
  · rintro ⟨k, hk, rfl⟩
    exact ⟨Nat.succ_pos k, hk⟩
  · rintro ⟨hpos, hle⟩
    exact ⟨t.index - 1, by omega, by rw [Nat.sub_add_cancel hpos]⟩

theorem nodup_upTo (n : Nat) : (upTo n).Nodup := by
  refine List.Nodup.map ?_ List.nodup_range
  intro a b h
  exact Nat.succ.inj (congrArg index h)

end Ticket

namespace Editor
variable (e : Editor) (t : Ticket) (o : Outcome Json)

theorem setText_eq_self_of_unchanged (text : String) (h : (e.setText text).2 = false) :
    (e.setText text).1 = e := by
  have ht : e.text = text := by simpa [setText] using h
  subst ht
  rfl

theorem latest?_eq_some_iff : e.latest? = some t ↔ 0 < e.issued ∧ t = ⟨e.issued⟩ := by
  unfold latest?
  split <;> simp <;> grind

/-- Under `latestIssued` every ticket but the last one taken is superseded, once one was taken. -/
theorem supersededBy?_eq_none_iff :
    e.supersededBy? t = none ↔ (e.policy = .latestIssued → 0 < e.issued → t = ⟨e.issued⟩) := by
  unfold supersededBy? latest?
  cases e.policy with
  | lastArrival => simp
  | latestIssued =>
    by_cases h : e.issued = 0
    · simp [h]
    · simp only [h, if_false, Option.filter_eq_none_iff, Option.some.injEq, forall_eq']
      grind

theorem finish_error (f : Failure) :
    e.finish t (.error f) = ({ e with inFlight := e.inFlight.filter (· ≠ t) }, .failed f) := rfl

theorem finish_ok_of_superseded (v : Json) (latest : Ticket)
    (h : e.supersededBy? t = some latest) :
    e.finish t (.ok v) = ({ e with inFlight := e.inFlight.filter (· ≠ t) }, .stale latest) := by
  have h' : supersededBy? { e with inFlight := e.inFlight.filter (· ≠ t) } t = some latest := h
  simp only [finish, h']

theorem finish_ok_of_current (v : Json) (h : e.supersededBy? t = none) :
    e.finish t (.ok v) =
      ({ e with inFlight := e.inFlight.filter (· ≠ t), result := some v }, .applied) := by
  have h' : supersededBy? { e with inFlight := e.inFlight.filter (· ≠ t) } t = none := h
  simp only [finish, h']

/-- The three ways in which a response is settled. -/
theorem finish_cases :
    (∃ f, o = .error f ∧
      e.finish t o = ({ e with inFlight := e.inFlight.filter (· ≠ t) }, .failed f)) ∨
    (∃ v latest, o = .ok v ∧ e.supersededBy? t = some latest ∧
      e.finish t o = ({ e with inFlight := e.inFlight.filter (· ≠ t) }, .stale latest)) ∨
    (∃ v, o = .ok v ∧ e.supersededBy? t = none ∧
      e.finish t o =
        ({ e with inFlight := e.inFlight.filter (· ≠ t), result := some v }, .applied)) := by
  cases o with
  | error f => exact .inl ⟨f, rfl, e.finish_error t f⟩
  | ok v =>
    cases h : e.supersededBy? t with
    | some latest => exact .inr (.inl ⟨v, latest, rfl, rfl, e.finish_ok_of_superseded t v latest h⟩)
    | none => exact .inr (.inr ⟨v, rfl, rfl, e.finish_ok_of_current t v h⟩)

@[simp] theorem finish_text : (e.finish t o).1.text = e.text := by
  obtain ⟨f, _, h⟩ | ⟨v, l, _, _, h⟩ | ⟨v, _, _, h⟩ := e.finish_cases t o <;> rw [h]

@[simp] theorem finish_policy : (e.finish t o).1.policy = e.policy := by
  obtain ⟨f, _, h⟩ | ⟨v, l, _, _, h⟩ | ⟨v, _, _, h⟩ := e.finish_cases t o <;> rw [h]

@[simp] theorem finish_issued : (e.finish t o).1.issued = e.issued := by
  obtain ⟨f, _, h⟩ | ⟨v, l, _, _, h⟩ | ⟨v, _, _, h⟩ := e.finish_cases t o <;> rw [h]

@[simp] theorem finish_inFlight :
    (e.finish t o).1.inFlight = e.inFlight.filter (· ≠ t) := by
  obtain ⟨f, _, h⟩ | ⟨v, l, _, _, h⟩ | ⟨v, _, _, h⟩ := e.finish_cases t o <;> rw [h]

theorem finish_result_of_not_applied (h : (e.finish t o).2 ≠ .applied) :
    (e.finish t o).1.result = e.result := by
  obtain ⟨f, _, hf⟩ | ⟨v, l, _, _, hf⟩ | ⟨v, _, _, hf⟩ := e.finish_cases t o
  · rw [hf]
  · rw [hf]
  · exact absurd (by rw [hf]) h

/-! ## Histories of calls -/

/-- What can be asked of an editor. A response may come with any ticket. -/
inductive Call
  | setText (text : String)
  | begin
  | finish (t : Ticket) (outcome : Outcome Json)

def call (e : Editor) : Call → Editor
  | .setText text => (e.setText text).1
  | .begin => e.begin.1
  | .finish t outcome => (e.finish t outcome).1

/-- The ticket that a call takes. -/
def ticket? (e : Editor) : Call → Option Ticket
  | .setText _ => none
  | .begin => some e.begin.2
  | .finish .. => none

/-- The tickets that some calls take, in order. -/
def taken (e : Editor) : List Call → List Ticket
  | [] => []
  | c :: rest => (e.ticket? c).toList ++ (e.call c).taken rest

/-- The editor after some calls of the empty one. -/
def after (policy : Policy) (calls : List Call) : Editor :=
  calls.foldl call (empty policy)

/-- The ticket that the empty editor takes last in some calls. -/
def lastTaken? (policy : Policy) (calls : List Call) : Option Ticket :=
  ((empty policy).taken calls).getLast?

section Calls
variable (e : Editor) (policy : Policy) (calls : List Call) (c : Call)

theorem taken_snoc : e.taken (calls ++ [c]) =
    e.taken calls ++ ((calls.foldl call e).ticket? c).toList := by
  induction calls generalizing e with
  | nil => simp [taken]
  | cons d rest ih => simp only [List.cons_append, taken, ih, List.append_assoc, List.foldl_cons]

theorem after_snoc : after policy (calls ++ [c]) = (after policy calls).call c :=
  List.foldl_concat ..

@[simp] theorem call_policy : (e.call c).policy = e.policy := by
  cases c with
  | finish t outcome => exact e.finish_policy t outcome
  | _ => rfl

@[simp] theorem after_policy : (after policy calls).policy = policy := by
  induction calls using List.reverseRecOn with
  | nil => rfl
  | append_singleton calls c ih => rw [after_snoc, call_policy, ih]

theorem call_latest? : (e.call c).latest? = (e.ticket? c).or e.latest? := by
  cases c with
  | setText text => rfl
  | begin => rfl
  | finish t outcome => simp [call, ticket?, latest?]

theorem lastTaken?_eq : lastTaken? policy calls = (after policy calls).latest? := by
  induction calls using List.reverseRecOn with
  | nil => rfl
  | append_singleton calls c ih =>
    have htaken : (empty policy).taken (calls ++ [c]) =
        (empty policy).taken calls ++ ((after policy calls).ticket? c).toList :=
      taken_snoc _ calls c
    rw [lastTaken?, htaken, List.getLast?_append, after_snoc, call_latest?, ← ih, lastTaken?]
    cases (after policy calls).ticket? c <;> rfl

end Calls

section Results
variable {e : Editor} {calls : List Call} {c : Call} {t : Ticket} {o : Outcome Json} {v : Json}

theorem finish_eq_applied_iff :
    (e.finish t o).2 = .applied ↔ (∃ v, o = .ok v) ∧ e.supersededBy? t = none := by
  obtain ⟨f, rfl, h⟩ | ⟨v, l, rfl, hs, h⟩ | ⟨v, rfl, hs, h⟩ := e.finish_cases t o
  · simp [h]
  · simp [h, hs]
  · simp [h, hs]

/-- Under `latestIssued`, a response that replaces the result: it brings a value, and its ticket is
the one taken last, or no ticket is taken yet. -/
def Heeded (calls : List Call) (c : Call) : Prop :=
  ∃ t v, c = .finish t (.ok v) ∧
    (lastTaken? .latestIssued calls = some t ∨ lastTaken? .latestIssued calls = none)

theorem not_superseded_iff : (after .latestIssued calls).supersededBy? t = none ↔
    lastTaken? .latestIssued calls = some t ∨ lastTaken? .latestIssued calls = none := by
  rw [supersededBy?, after_policy, lastTaken?_eq]
  cases (after .latestIssued calls).latest? with
  | none => simp
  | some latest => simp

theorem finish_result_of_current
    (h : lastTaken? .latestIssued calls = some t ∨ lastTaken? .latestIssued calls = none) :
    ((after .latestIssued calls).finish t (.ok v)).1.result = some v := by
  rw [finish_ok_of_current _ _ _ (not_superseded_iff.mpr h)]

theorem call_result_of_not_heeded (h : ¬ Heeded calls c) :
    ((after .latestIssued calls).call c).result = (after .latestIssued calls).result := by
  cases c with
  | setText text => rfl
  | begin => rfl
  | finish t o =>
    apply finish_result_of_not_applied
    intro ha
    obtain ⟨⟨v, rfl⟩, hs⟩ := finish_eq_applied_iff.mp ha
    exact h ⟨t, v, rfl, not_superseded_iff.mp hs⟩

/-- The result is the value of the response that was heeded last. -/
theorem after_result_eq_some_iff : (after .latestIssued calls).result = some v ↔
    ∃ before t since, LastOf Heeded calls before (.finish t (.ok v)) since := by
  induction calls using List.reverseRecOn generalizing v with
  | nil =>
    constructor
    · intro h
      cases h
    · rintro ⟨before, t, since, h⟩
      exact absurd h LastOf.not_nil
  | append_singleton calls c ih =>
    rw [after_snoc]
    by_cases hc : Heeded calls c
    · obtain ⟨t, w, rfl, ht⟩ := hc
      rw [call, finish_result_of_current ht]
      constructor
      · rintro ⟨⟩
        exact ⟨calls, t, [], .newest ⟨t, v, rfl, ht⟩⟩
      · rintro ⟨before, t', since, h⟩
        obtain ⟨rfl, hv, rfl⟩ | ⟨since', rfl, -, hn⟩ := h.snoc_cases
        · cases hv
          rfl
        · exact absurd ⟨t, w, rfl, ht⟩ hn
    · rw [call_result_of_not_heeded hc, ih]
      constructor
      · rintro ⟨before, t, since, h⟩
        exact ⟨before, t, since ++ [c], h.snoc hc⟩
      · rintro ⟨before, t, since, h⟩
        obtain ⟨rfl, rfl, rfl⟩ | ⟨since', rfl, h, -⟩ := h.snoc_cases
        · exact absurd h.kind hc
        · exact ⟨before, t, since', h⟩

/-- What the responses to an editor under `latestIssued` do to its result after some calls, whatever
tickets they come with. -/
structure Governed (calls : List Call) : Prop where
  applied_iff : ∀ latest, lastTaken? .latestIssued calls = some latest → ∀ t o,
    ((after .latestIssued calls).finish t o).2 = .applied ↔ (∃ v, o = .ok v) ∧ t = latest
  /-- As long as no ticket is taken, none is superseded. -/
  applied_iff_of_none : lastTaken? .latestIssued calls = none → ∀ t o,
    ((after .latestIssued calls).finish t o).2 = .applied ↔ ∃ v, o = .ok v
  replaced : ∀ t v, ((after .latestIssued calls).finish t (.ok v)).2 = .applied →
    ((after .latestIssued calls).finish t (.ok v)).1.result = some v
  kept : ∀ c, (∀ t v, c = .finish t (.ok v) →
      ((after .latestIssued calls).finish t (.ok v)).2 ≠ .applied) →
    ((after .latestIssued calls).call c).result = (after .latestIssued calls).result
  result : ∀ v, (after .latestIssued calls).result = some v ↔
    ∃ before t since, LastOf Heeded calls before (.finish t (.ok v)) since

theorem governed (calls : List Call) : Governed calls where
  applied_iff latest hl t o := by
    rw [finish_eq_applied_iff, not_superseded_iff, hl]
    simp [eq_comm]
  applied_iff_of_none hl t o := by
    rw [finish_eq_applied_iff, not_superseded_iff, hl]
    simp
  replaced t v h := by
    obtain ⟨-, hs⟩ := finish_eq_applied_iff.mp h
    exact finish_result_of_current (not_superseded_iff.mp hs)
  kept c h := by
    apply call_result_of_not_heeded
    rintro ⟨t, v, rfl, ht⟩
    exact h t v rfl (finish_eq_applied_iff.mpr ⟨⟨v, rfl⟩, not_superseded_iff.mpr ht⟩)
  result v := after_result_eq_some_iff

/-- The first response that comes to an editor, before any ticket is taken, is applied. -/
theorem not_replaced_only_by_last :
    ¬ ∀ (calls : List Call) (t : Ticket) (o : Outcome Json),
      ((after .latestIssued calls).finish t o).1.result ≠ (after .latestIssued calls).result →
        (∃ v, o = .ok v) ∧ lastTaken? .latestIssued calls = some t := by
  intro h
  have hlast := (h [] ⟨1⟩ (.ok .null) (Option.some_ne_none _)).2
  cases hlast

end Results

end Editor
end Scratchpad
