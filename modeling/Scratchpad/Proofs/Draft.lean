import Scratchpad.Proofs.Session

/-!
# The text and its snapshots

The text of a session is a draft: a base, and the lines appended since the base was set. A draft is
followed through inputs without an editor; beside it only the catalog is kept, as the names that
are found and the load that is accepted depend on it. A snapshot is the text of the draft at a
submission, and the evaluation requests of a session are its snapshots in order.
-/

namespace Scratchpad

/-- The catalog after an input, whatever the text is. -/
def Catalog.take (c : Catalog) : Input → Catalog
  | .message .catalogMounted => c.mount.1
  | .message (.catalogLoaded outcome) => (c.finishLoad outcome).1
  | .message (.selectionChanged value) => c.select value
  | .command (.select name) => ((c.find? name).map fun e => c.select e.value).getD c
  | _ => c

structure Draft where
  base : String
  lines : List String

namespace Draft

def empty : Draft := ⟨"", []⟩

def text (dr : Draft) : String :=
  dr.base ++ String.join (dr.lines.map (· ++ "\n"))

/-- The base that an input sets, if it sets one. -/
def base? (c : Catalog) : Input → Option String
  | .command .clear => some ""
  | .message (.textChanged text) => some text
  | .message (.selectionChanged value) => some value
  | .command (.select name) => (c.find? name).map (·.value)
  | .message (.catalogLoaded (.ok (e :: _))) => if c.phase = .loading then some e.value else none
  | _ => none

/-- The draft after an input. -/
def take (c : Catalog) (dr : Draft) : Input → Draft
  | .command (.append line) => { dr with lines := dr.lines ++ [line] }
  | i => (base? c i).elim dr fun base => ⟨base, []⟩

/-- The draft after some inputs. -/
def follow (c : Catalog) (dr : Draft) : List Input → Draft
  | [] => dr
  | i :: rest => follow (c.take i) (dr.take c i) rest

/-- The texts of the draft at the submissions among some inputs. -/
def snapshots (c : Catalog) (dr : Draft) : List Input → List String
  | [] => []
  | i :: rest => (if i.isSubmit then [dr.text] else []) ++ snapshots (c.take i) (dr.take c i) rest

/-- The draft after some inputs to a fresh session. -/
def after (inputs : List Input) : Draft :=
  empty.follow .unmounted inputs

end Draft

/-- The inputs that neither type nor choose a text. -/
inductive Input.Idle (c : Catalog) : Input → Prop
  | submission : Idle c (.message .submit)
  | submit : Idle c (.command .submit)
  | «show» : Idle c (.command .show)
  | quit : Idle c (.command .quit)
  | mount : Idle c (.message .catalogMounted)
  | completion (t : Ticket) (outcome : Outcome Json) : Idle c (.message (.evalFinished t outcome))
  | unknown (name : String) (h : c.find? name = none) : Idle c (.command (.select name))
  | failedLoad (f : Failure) : Idle c (.message (.catalogLoaded (.error f)))
  | emptyLoad : Idle c (.message (.catalogLoaded (.ok [])))
  | ignoredLoad (outcome : Outcome (List Entry)) (h : c.phase ≠ .loading) :
    Idle c (.message (.catalogLoaded outcome))

namespace Draft
variable (c : Catalog) (dr : Draft)

@[simp] theorem text_of_base (base : String) : text ⟨base, []⟩ = base := by
  simp [text]

theorem take_of_load (outcome : Outcome (List Entry)) :
    dr.take c (.message (.catalogLoaded outcome)) =
      (c.chosen? outcome).elim dr fun base => ⟨base, []⟩ := by
  obtain f | (_ | ⟨e, rest⟩) := outcome <;> cases c <;> rfl

theorem take_of_append (line : String) :
    (dr.take c (.command (.append line))).text = dr.text ++ line ++ "\n" := by
  have hj : String.join [line ++ "\n"] = line ++ "\n" := by simp [String.join]
  simp only [take, text, List.map_append, List.map_cons, List.map_nil, String.join_append, hj,
    String.append_assoc]

theorem take_of_idle {i : Input} (h : i.Idle c) : dr.take c i = dr := by
  cases h with
  | unknown name h => simp [take, base?, h]
  | ignoredLoad outcome h =>
    obtain f | (_ | ⟨e, rest⟩) := outcome <;> simp [take, base?, h]
  | _ => rfl

end Draft

namespace Pad
variable (p : Pad) (i : Input)

theorem update_text (m : Message) : (p.update m).1.editor.text =
    match m with
    | .textChanged text => text
    | .catalogLoaded outcome => (p.catalog.chosen? outcome).getD p.editor.text
    | .selectionChanged value => value
    | _ => p.editor.text := by
  rw [update_editor]
  cases m with
  | catalogLoaded outcome => dsimp only; cases p.catalog.chosen? outcome <;> rfl
  | evalFinished t outcome => exact p.editor.finish_text t outcome
  | _ => rfl

theorem take_catalog : (p.take i).catalog = p.catalog.take i := by
  unfold take
  cases i with
  | message m =>
    change (p.update m).1.catalog = _
    rw [update_catalog]
    cases m <;> rfl
  | command c =>
    cases c with
    | select name =>
      simp only [reading?, Catalog.take]
      cases p.catalog.find? name with
      | none => rfl
      | some e => exact p.update_catalog (.selectionChanged e.value)
    | _ => rfl

/-- If the text is a draft before an input, then it is one after it. -/
theorem take_text {dr : Draft} (h : p.editor.text = dr.text) :
    (p.take i).editor.text = (dr.take p.catalog i).text := by
  cases i with
  | message m =>
    change (p.update m).1.editor.text = _
    rw [update_text]
    cases m with
    | textChanged text => exact (Draft.text_of_base text).symm
    | selectionChanged value => exact (Draft.text_of_base value).symm
    | catalogLoaded outcome =>
      rw [Draft.take_of_load]
      dsimp only
      cases p.catalog.chosen? outcome with
      | none => exact h
      | some value => exact (Draft.text_of_base value).symm
    | _ => exact h
  | command c =>
    cases c with
    | append line =>
      rw [Draft.take_of_append, ← h]
      rfl
    | clear => rfl
    | select name =>
      simp only [take, reading?, Draft.take, Draft.base?]
      cases p.catalog.find? name with
      | none => exact h
      | some e => exact (Draft.text_of_base e.value).symm
    | _ => exact h

end Pad

namespace Session
variable {σ : Type} (d : Device σ) (s : Session σ)

theorem play_draft {dr : Draft} (h : s.pad.editor.text = dr.text) (turns : List Turn) :
    (s.play d turns).1.pad.editor.text =
        (dr.follow s.pad.catalog (Turn.inputs turns)).text ∧
      (s.play d turns).2.requests.filterMap Request.evaluation? =
        (dr.snapshots s.pad.catalog (Turn.inputs turns)).mapIdx fun k text =>
          (⟨s.pad.editor.issued + (k + 1)⟩, text) := by
  induction turns generalizing s dr with
  | nil => exact ⟨h, rfl⟩
  | cons t rest ih =>
    cases t with
    | tick => exact ih (s.redraw d).1 h
    | input i =>
      have htext : (s.apply d i).1.pad.editor.text = (dr.take s.pad.catalog i).text := by
        rw [apply_pad]
        exact s.pad.take_text i h
      obtain ⟨ht, hr⟩ := ih (s.apply d i).1 htext
      have hc : (s.apply d i).1.pad.catalog = s.pad.catalog.take i := by
        rw [apply_pad, Pad.take_catalog]
      have hi : (s.apply d i).1.pad.editor.issued =
          s.pad.editor.issued + if i.isSubmit then 1 else 0 := by
        rw [apply_pad, Pad.take_issued]
      rw [hc] at ht hr
      refine ⟨ht, ?_⟩
      change ((s.apply d i).2.requests ++ ((s.apply d i).1.play d rest).2.requests).filterMap _ =
        (dr.snapshots s.pad.catalog (i :: Turn.inputs rest)).mapIdx _
      rw [List.filterMap_append, hr, apply_evaluations, Draft.snapshots, hi]
      cases i.isSubmit with
      | false => simp
      | true => simp [List.mapIdx_cons, h, Nat.add_comm, Nat.add_left_comm]

theorem run_draft {dr : Draft} (h : s.pad.editor.text = dr.text) (turns : List Turn) :
    (s.run d turns).1.pad.editor.text =
        (dr.follow s.pad.catalog ((Turn.inputs turns).takeWhile (!·.isQuit))).text ∧
      (s.run d turns).2.1.requests.filterMap Request.evaluation? =
        (dr.snapshots s.pad.catalog ((Turn.inputs turns).takeWhile (!·.isQuit))).mapIdx
          fun k text => (⟨s.pad.editor.issued + (k + 1)⟩, text) := by
  rw [run_eq_play, ← Turn.inputs_beforeQuit]
  have hp := s.play_draft d h (Turn.beforeQuit turns)
  split
  next hq => simpa using hp
  next hq => rwa [Turn.beforeQuit_eq_self hq] at hp ⊢

/-- The text of a session is the draft of the inputs so far, and its evaluation requests are the
snapshots of that draft, under tickets numbered from one. Redraws and idle inputs keep the text, and
only a submission requests an evaluation: of the text as it stands. -/
theorem text_eq_draft (d : Device σ) (policy : Policy) (device : σ) (turns : List Turn) :
    let inputs := Turn.inputs turns
    let s := ((start policy device).play d turns).1
    (s.pad.editor.text = (Draft.after inputs).text ∧
      ((start policy device).play d turns).2.requests.filterMap Request.evaluation? =
        (Draft.empty.snapshots .unmounted inputs).mapIdx fun k text => (⟨k + 1⟩, text)) ∧
    ((s.redraw d).1.pad = s.pad ∧ (s.redraw d).2.requests = []) ∧
    (∀ i, i.Idle s.pad.catalog → (s.apply d i).1.pad.editor.text = s.pad.editor.text) ∧
    (∀ i, (s.apply d i).2.requests.filterMap Request.evaluation? =
      if i.isSubmit then [(⟨inputs.countP Input.isSubmit + 1⟩, (Draft.after inputs).text)]
      else []) ∧
    ((start policy device).run d turns).1.pad.editor.text =
        (Draft.after (inputs.takeWhile (!·.isQuit))).text ∧
      ((start policy device).run d turns).2.1.requests.filterMap Request.evaluation? =
        (Draft.empty.snapshots .unmounted (inputs.takeWhile (!·.isQuit))).mapIdx
          fun k text => (⟨k + 1⟩, text) := by
  intro inputs s
  have hstart : (start policy device).pad.editor.text = Draft.empty.text := rfl
  have hplay : s.pad.editor.text = (Draft.after inputs).text ∧
      ((start policy device).play d turns).2.requests.filterMap Request.evaluation? =
        (Draft.empty.snapshots .unmounted inputs).mapIdx fun k text => (⟨0 + (k + 1)⟩, text) :=
    (start policy device).play_draft d hstart turns
  have hrun := (start policy device).run_draft d hstart turns
  have hissued : s.pad.editor.issued = inputs.countP Input.isSubmit := by
    rw [play_pad, Pad.takeAll_issued]
    exact Nat.zero_add _
  simp only [Nat.zero_add] at hplay
  refine ⟨hplay, ⟨rfl, rfl⟩, fun i hi => ?_, fun i => ?_, ?_⟩
  · rw [apply_pad, s.pad.take_text i hplay.1, Draft.take_of_idle _ _ hi, hplay.1]
  · rw [apply_evaluations, hissued, hplay.1]
  · simpa [start, Pad.empty, Editor.empty, Draft.after] using hrun

/-- Two lines are typed and submitted, cleared while the response is awaited, another line is
submitted, and the frame is shown. -/
theorem text_eq_draft_of_typing :
    let turns := [.input (.command (.append "1")), .tick, .input (.command (.append " + 2")),
      .input (.command .submit), .input (.command .clear), .input (.command (.append "3")),
      .input (.message (.evalFinished ⟨1⟩ (.ok .null))), .input (.command .submit)]
    let played := (start .latestIssued Tank.unlimited).play Tank.device turns
    played.2.requests.filterMap Request.evaluation? = [(⟨1⟩, "1\n + 2\n"), (⟨2⟩, "3\n")] ∧
      Input.Idle played.1.pad.catalog (.command .show) ∧
      (played.1.apply Tank.device (.command .show)).1.pad.editor.text =
        played.1.pad.editor.text := by
  intro turns played
  obtain ⟨⟨_, hrequests⟩, _, hidle, _⟩ :=
    text_eq_draft Tank.device .latestIssued Tank.unlimited turns
  exact ⟨hrequests.trans (by decide), .show, hidle _ .show⟩

end Session
end Scratchpad
