import Scratchpad.Frame
import Scratchpad.Proofs.Pad

/-!
# What a transition says of change

A transition that reports no change leaves the whole pad as it was and asks for nothing; it follows
from one of three messages that find nothing to do. So a display that is painted anew only when a
change is reported always shows the frame of the pad.
-/

namespace Scratchpad.Pad
variable (p : Pad) (m : Message)

/-- A message that finds nothing to do: the text is that already, the catalog is mounted, or no
response is awaited. -/
def IsIdle (p : Pad) : Message → Prop
  | .textChanged text => text = p.editor.text
  | .catalogMounted => p.catalog.phase ≠ .unmounted
  | .catalogLoaded _ => p.catalog.phase ≠ .loading
  | .submit => False
  | .evalFinished .. => False
  | .selectionChanged _ => False

theorem update_changed_eq_false_iff : (p.update m).2.changed = false ↔ p.IsIdle m := by
  cases m with
  | textChanged text =>
    simp only [update, Editor.setText, Transition.quiet, IsIdle, bne_eq_false_iff_eq]
    exact eq_comm
  | submit => simp [update, Transition.asking, IsIdle]
  | evalFinished t outcome =>
    simp only [update, IsIdle, iff_false]
    split <;> simp [Transition.quiet, Transition.noted]
  | catalogMounted =>
    rcases hc : p.catalog with _ | _ | _ | _ <;>
      simp [update, hc, Catalog.mount, Catalog.phase, Transition.asking, Transition.noted, IsIdle]
  | catalogLoaded outcome =>
    rcases hc : p.catalog with _ | _ | _ | _
    case loading =>
      obtain f | (_ | ⟨e, rest⟩) := outcome <;>
        simp [update, hc, Catalog.finishLoad, Catalog.phase, Transition.quiet, Transition.noted,
          IsIdle]
    all_goals
      simp [update, hc, Catalog.finishLoad, Catalog.phase, Transition.noted, IsIdle]
  | selectionChanged value => simp [update, Transition.quiet, IsIdle]

theorem update_requests_of_unchanged (h : (p.update m).2.changed = false) :
    (p.update m).2.requests = [] := by
  rw [update_changed_eq_false_iff] at h
  rw [update_requests]
  cases m with
  | submit => exact h.elim
  | catalogMounted =>
    rcases hc : p.catalog with _ | _ | _ | _
    case unmounted => exact absurd (by rw [hc]; rfl) h
    all_goals rfl
  | _ => rfl

/-- The frame on display after some messages, when it was `f` before and only a transition that
reports a change has it painted anew. -/
def display (p : Pad) (f : Frame) : List Message → Frame
  | [] => f
  | m :: rest =>
    (p.update m).1.display
      (if (p.update m).2.changed then Frame.ofPad (p.update m).1 else f) rest

theorem display_eq (ms : List Message) :
    p.display (Frame.ofPad p) ms = Frame.ofPad (p.run ms).1 := by
  induction ms generalizing p with
  | nil => rfl
  | cons m rest ih =>
    have hf : (if (p.update m).2.changed then Frame.ofPad (p.update m).1 else Frame.ofPad p) =
        Frame.ofPad (p.update m).1 := by
      cases hc : (p.update m).2.changed with
      | true => rfl
      | false => exact congrArg Frame.ofPad (p.update_eq_self_of_unchanged m hc).symm
    rw [display, hf]
    exact ih (p.update m).1

/-- What a transition tells of the change that it makes. -/
structure Announced (p : Pad) (m : Message) : Prop where
  quiet_iff : (p.update m).2.changed = false ↔ p.IsIdle m
  quiet : (p.update m).2.changed = false →
    (p.update m).1 = p ∧ (p.update m).2.requests = [] ∧
      Frame.ofPad (p.update m).1 = Frame.ofPad p
  asking : (p.update m).2.requests ≠ [] → (p.update m).2.changed = true
  shown : Frame.ofPad (p.update m).1 ≠ Frame.ofPad p → (p.update m).2.changed = true

/-- Every transition tells of its change, so what is painted when it does is always up to date. -/
theorem changes_announced :
    (∀ m, p.Announced m) ∧ ∀ ms, p.display (Frame.ofPad p) ms = Frame.ofPad (p.run ms).1 := by
  refine ⟨fun m => ⟨p.update_changed_eq_false_iff m, fun h => ?_, fun h => ?_, fun h => ?_⟩,
    p.display_eq⟩
  · have hp := p.update_eq_self_of_unchanged m h
    exact ⟨hp, p.update_requests_of_unchanged m h, congrArg Frame.ofPad hp⟩
  · exact Bool.of_not_eq_false fun hc => h (p.update_requests_of_unchanged m hc)
  · exact Bool.of_not_eq_false fun hc =>
      h (congrArg Frame.ofPad (p.update_eq_self_of_unchanged m hc))

end Scratchpad.Pad
