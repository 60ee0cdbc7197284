import Mathlib.Data.List.Basic

/-!
# The last event of a kind

A history lists events, the oldest first. Of what kind an event is may depend on the events before
it. The last event of a kind is the newest one, or it was the last one before the newest came.
-/

namespace Scratchpad
variable {α : Type} {K : List α → α → Prop} {history before since : List α} {event e : α}

/-- Of the events of `history`, the last one of the kind `K` is `event`, which comes after the
events `before`; the events `since` come later. -/
structure LastOf (K : List α → α → Prop) (history before : List α) (event : α)
    (since : List α) : Prop where
  occurs : history = before ++ event :: since
  kind : K before event
  last : ∀ later e, before.length < later.length → later ++ [e] <+: history → ¬ K later e

namespace LastOf

theorem newest (h : K history event) : LastOf K (history ++ [event]) history event [] where
  occurs := rfl
  kind := h
  last later e hlen hp := by
    have hle := hp.length_le
    simp only [List.length_append, List.length_singleton] at hle
    omega

theorem snoc (h : LastOf K history before event since) (he : ¬ K history e) :
    LastOf K (history ++ [e]) before event (since ++ [e]) where
  occurs := by rw [h.occurs, List.append_assoc, List.cons_append]
  kind := h.kind
  last later e' hlen hp := by
    rw [List.prefix_concat_iff, List.append_singleton_inj] at hp
    rcases hp with ⟨rfl, rfl⟩ | hp
    · exact he
    · exact h.last later e' hlen hp

theorem snoc_cases (h : LastOf K (history ++ [e]) before event since) :
    (before = history ∧ event = e ∧ since = []) ∨
      ∃ since', since = since' ++ [e] ∧ LastOf K history before event since' ∧ ¬ K history e := by
  rcases since.eq_nil_or_concat' with rfl | ⟨since', e', rfl⟩
  · obtain ⟨rfl, rfl⟩ := List.append_singleton_inj.mp h.occurs
    exact .inl ⟨rfl, rfl, rfl⟩
  · have ho : history ++ [e] = (before ++ event :: since') ++ [e'] := by
      rw [h.occurs, List.append_assoc, List.cons_append]
    obtain ⟨rfl, rfl⟩ := List.append_singleton_inj.mp ho
    refine .inr ⟨since', rfl, ⟨rfl, h.kind, fun later e' hlen hp => ?_⟩, ?_⟩
    · exact h.last later e' hlen (hp.trans (List.prefix_append _ _))
    · refine h.last _ e ?_ (List.prefix_refl _)
      simp only [List.length_append, List.length_cons]
      omega

theorem not_nil : ¬ LastOf K [] before event since := by
  intro h
  have ho := h.occurs
  simp at ho

end LastOf
end Scratchpad
