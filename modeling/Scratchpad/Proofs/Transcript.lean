import Scratchpad.Proofs.Screen
import Scratchpad.Proofs.Session

/-!
# What a session writes

On a willing device a session whose screen remembers the frame of its pad writes, for every input,
the text of the new frame if that differs from the one before or if the input is `show`, and nothing
otherwise. Redraws in between write nothing, so the output depends on the inputs alone, and the
screen remembers the frame of the pad all the time.
-/

namespace Scratchpad

/-- What is written for an input. -/
def Pad.echo (p : Pad) (i : Input) : Bytes :=
  if i.isShow ∨ Frame.ofPad (p.take i) ≠ Frame.ofPad p then (Frame.ofPad (p.take i)).bytes else []

/-- What is written for some inputs, one after the other. -/
def Pad.transcript (p : Pad) : List Input → Bytes
  | [] => []
  | i :: rest => p.echo i ++ (p.take i).transcript rest

/-- The screen remembers the frame of the pad, and the device is in one of the states `I`. -/
structure Session.Current {σ : Type} (I : σ → Prop) (s : Session σ) : Prop where
  remembered : s.screen.last = some (.ofPad s.pad)
  device : I s.screen.sink.device

/-- The screen remembers no other frame, and perhaps none. -/
structure Session.Synced {σ : Type} (I : σ → Prop) (s : Session σ) : Prop where
  remembered : ∀ f, s.screen.last = some f → f = .ofPad s.pad
  device : I s.screen.sink.device

namespace Session
variable {σ : Type} {d : Device σ} {I : σ → Prop} {s : Session σ}

theorem Current.synced (h : s.Current I) : s.Synced I where
  remembered := by
    intro f hf
    rw [h.remembered] at hf
    exact (Option.some.inj hf).symm
  device := h.device

/-- Whatever the screen remembers, a redraw makes it current. -/
theorem current_redraw (hd : d.Willing I) (s : Session σ) (hs : I s.screen.sink.device) :
    (s.redraw d).1.Current I := by
  by_cases h : s.screen.last = some (.ofPad s.pad)
  · have he : (s.redraw d).1 = s := by simp only [redraw, Screen.draw_of_remembered h]
    rw [he]
    exact ⟨h, hs⟩
  · obtain ⟨_, hlast, hI⟩ := Screen.draw_of_willing hd hs h
    exact ⟨hlast, hI⟩

/-- The first mount draws. -/
theorem current_mount (hd : d.Willing I) (policy : Policy) (device : σ) (hs : I device) :
    ((Session.start policy device).mount d).1.Current I :=
  current_redraw hd
    { Session.start policy device with pad := ⟨.empty policy, .loading⟩ } hs

theorem redraw_of_current (h : s.Current I) : (s.redraw d).1 = s := by
  simp only [redraw, Screen.draw_of_remembered h.remembered]

/-- A redraw after the pad changed writes the new frame if it is another one. -/
theorem output_redraw_of_changed (hd : d.Willing I) (h : s.Current I) (p : Pad) :
    (redraw d { s with pad := p }).1.screen.output = s.screen.output ++
      (if Frame.ofPad p ≠ Frame.ofPad s.pad then (Frame.ofPad p).bytes else []) := by
  by_cases hf : Frame.ofPad p = Frame.ofPad s.pad
  · have hr : s.screen.last = some (.ofPad p) := by rw [h.remembered, hf]
    have he : (redraw d { s with pad := p }).1 = { s with pad := p } := by
      simp only [redraw, Screen.draw_of_remembered hr]
    rw [he, if_neg (not_not_intro hf), List.append_nil]
  · have hr : s.screen.last ≠ some (.ofPad p) := by
      rw [h.remembered]
      intro he
      exact hf (Option.some.inj he).symm
    rw [if_pos hf]
    exact (Screen.draw_of_willing hd h.device hr).1

theorem dispatch_of_changed {m : Message} (h : (s.pad.update m).2.changed = true) :
    (s.dispatch d m).1 = (redraw d { s with pad := (s.pad.update m).1 }).1 := by
  simp only [dispatch, h, if_true]

theorem dispatch_of_unchanged {m : Message} (h : (s.pad.update m).2.changed = false) :
    (s.dispatch d m).1 = s := by
  simp only [dispatch, h, Bool.false_eq_true, if_false, s.pad.update_eq_self_of_unchanged m h]

theorem dispatch_current (hd : d.Willing I) (h : s.Current I) (m : Message) :
    (s.dispatch d m).1.Current I ∧
      (s.dispatch d m).1.screen.output = s.screen.output ++
        (if Frame.ofPad (s.pad.update m).1 ≠ Frame.ofPad s.pad then
          (Frame.ofPad (s.pad.update m).1).bytes else []) := by
  cases hc : (s.pad.update m).2.changed with
  | false =>
    rw [dispatch_of_unchanged hc, s.pad.update_eq_self_of_unchanged m hc]
    exact ⟨h, by simp⟩
  | true =>
    rw [dispatch_of_changed hc]
    exact ⟨current_redraw hd _ h.device, output_redraw_of_changed hd h _⟩

theorem apply_show (hd : d.Willing I) (h : s.Current I) :
    (s.apply d (.command .show)).1.Current I ∧
      (s.apply d (.command .show)).1.screen.output =
        s.screen.output ++ (Frame.ofPad s.pad).bytes := by
  have hlast : s.screen.invalidate.last ≠ some (.ofPad s.pad) := by rintro ⟨⟩
  obtain ⟨hout, hrem, hI⟩ := Screen.draw_of_willing hd (s := s.screen.invalidate) h.device hlast
  exact ⟨⟨hrem, hI⟩, hout⟩

/-- One input keeps the screen current and writes its echo. -/
theorem apply_current (hd : d.Willing I) (h : s.Current I) (i : Input) :
    (s.apply d i).1.Current I ∧
      (s.apply d i).1.screen.output = s.screen.output ++ s.pad.echo i := by
  cases hshow : i.isShow with
  | true =>
    obtain rfl := Input.eq_show_of_isShow hshow
    have he : s.pad.echo (.command .show) = (Frame.ofPad s.pad).bytes := by
      rw [Pad.echo, if_pos (.inl rfl)]
      rfl
    rw [he]
    exact apply_show hd h
  | false =>
    rw [Pad.echo, hshow]
    cases hr : s.pad.reading? i with
    | some m =>
      have ht : s.pad.take i = (s.pad.update m).1 := by rw [Pad.take, hr]; rfl
      rw [s.apply_of_reading? d hr, ht]
      simpa using dispatch_current hd h m
    | none =>
      have ht : s.pad.take i = s.pad := by rw [Pad.take, hr]; rfl
      rw [s.apply_eq_self d hr hshow, ht]
      exact ⟨h, by simp⟩

theorem apply_synced (hd : d.Willing I) (h : s.Synced I) (i : Input) :
    (s.apply d i).1.Synced I := by
  cases hshow : i.isShow with
  | true =>
    obtain rfl := Input.eq_show_of_isShow hshow
    exact (current_redraw hd { s with screen := s.screen.invalidate } h.device).synced
  | false =>
    cases hr : s.pad.reading? i with
    | none =>
      rw [s.apply_eq_self d hr hshow]
      exact h
    | some m =>
      rw [s.apply_of_reading? d hr]
      cases hc : (s.pad.update m).2.changed with
      | false =>
        rw [dispatch_of_unchanged hc]
        exact h
      | true =>
        rw [dispatch_of_changed hc]
        exact (current_redraw hd { s with pad := (s.pad.update m).1 } h.device).synced

/-- Any turns keep the screen current and write the transcript of their inputs. -/
theorem play_current (hd : d.Willing I) (h : s.Current I) (turns : List Turn) :
    (s.play d turns).1.Current I ∧
      (s.play d turns).1.screen.output =
        s.screen.output ++ s.pad.transcript (Turn.inputs turns) := by
  induction turns generalizing s with
  | nil => exact ⟨h, by simp [play, Turn.inputs, Pad.transcript]⟩
  | cons t rest ih =>
    cases t with
    | tick =>
      have ht : (s.turn d .tick).1 = s := redraw_of_current h
      simp only [play, ht]
      exact ih h
    | input i =>
      obtain ⟨hc, hout⟩ := apply_current hd h i
      obtain ⟨hc', hout'⟩ := ih hc
      refine ⟨hc', ?_⟩
      calc
        _ = (s.apply d i).1.screen.output ++
            (s.apply d i).1.pad.transcript (Turn.inputs rest) := hout'
        _ = s.screen.output ++ s.pad.transcript (i :: Turn.inputs rest) := by
          rw [hout, apply_pad, List.append_assoc, Pad.transcript]

/-- A run writes the transcript of the inputs before the first `quit`, and no more when it is
closed. -/
theorem run_current (hd : d.Willing I) (h : s.Current I) (turns : List Turn) :
    (s.run d turns).1.Current I ∧
      (s.run d turns).1.screen.output = s.screen.output ++
        s.pad.transcript ((Turn.inputs turns).takeWhile (!·.isQuit)) := by
  rw [run_eq_play, ← Turn.inputs_beforeQuit]
  have hp := play_current hd h (Turn.beforeQuit turns)
  split
  next hq =>
    have hc : ((s.play d (Turn.beforeQuit turns)).1.close d).1 =
        (s.play d (Turn.beforeQuit turns)).1 := redraw_of_current hp.1
    simpa only [hc] using hp
  next hq => rwa [Turn.beforeQuit_eq_self hq] at hp ⊢

/-- Redraws between the inputs are invisible: what is written depends on the inputs alone, and the
screen is current after every one of them. A redraw or the first mount makes it so. -/
theorem output_eq_transcript (hd : d.Willing I) :
    (∀ s : Session σ, I s.screen.sink.device → (s.redraw d).1.Current I) ∧
    (∀ policy device, I device → ((Session.start policy device).mount d).1.Current I) ∧
    ∀ s : Session σ, s.Current I → ∀ turns,
      (s.play d turns).1.pad = s.pad.takeAll (Turn.inputs turns) ∧
      (s.play d turns).1.screen.output =
        s.screen.output ++ s.pad.transcript (Turn.inputs turns) ∧
      (s.play d turns).1.screen.last = some (.ofPad (s.play d turns).1.pad) ∧
      (s.run d turns).1.screen.output = s.screen.output ++
        s.pad.transcript ((Turn.inputs turns).takeWhile (!·.isQuit)) ∧
      (s.run d turns).1.screen.last = some (.ofPad (s.run d turns).1.pad) ∧
      ∀ turns', Turn.inputs turns' = Turn.inputs turns →
        (s.play d turns').1.screen.output = (s.play d turns).1.screen.output ∧
        (s.run d turns').1.screen.output = (s.run d turns).1.screen.output := by
  refine ⟨current_redraw hd, current_mount hd, fun s h turns => ?_⟩
  obtain ⟨hp, hout⟩ := play_current hd h turns
  obtain ⟨hr, hrout⟩ := run_current hd h turns
  refine ⟨s.play_pad d turns, hout, hp.remembered, hrout, hr.remembered,
    fun turns' he => ⟨?_, ?_⟩⟩
  · rw [hout, (play_current hd h turns').2, he]
  · rw [hrout, (run_current hd h turns').2, he]

/-- A session on a tank, drawn once: text is typed, nothing happens for two ticks, and the frame is
shown again. -/
theorem output_eq_transcript_of_typing :
    Tank.device.Willing (· = .unlimited) ∧
    ((Session.start .latestIssued Tank.unlimited).redraw Tank.device).1.Current (· = .unlimited) ∧
    (((Session.start .latestIssued Tank.unlimited).redraw Tank.device).1.play Tank.device
        [.input (.command (.append "1")), .tick, .tick, .input (.command .show)]).1.screen.output =
      ((Session.start .latestIssued Tank.unlimited).redraw Tank.device).1.screen.output ++
        (Pad.empty .latestIssued).transcript [.command (.append "1"), .command .show] := by
  have h := output_eq_transcript Tank.device_willing
  have hc : ((Session.start .latestIssued Tank.unlimited).redraw Tank.device).1.Current
      (· = .unlimited) := h.1 _ rfl
  exact ⟨Tank.device_willing, hc, (h.2.2 _ hc _).2.1⟩

end Session
end Scratchpad
