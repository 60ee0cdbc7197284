import Mathlib.Tactic.SplitIfs
import Scratchpad.Evaluator
import Scratchpad.Proofs.Text

/-!
# Laws of captures and replies

A capture of some bytes keeps as many of them as the limit allows and counts the others, however the
bytes come in chunks and whatever interrupts them. So the reply to a process that ends in time
depends on its status and on all that it wrote, and not on how that was read or how much of its
input it took. An error always has a message.
-/

namespace Scratchpad

/-- All that a stream brings, or why it fails. -/
def Process.delivered : List Attempt → Except String Bytes
  | [] => .ok []
  | .chunk bytes :: rest => (delivered rest).map (bytes ++ ·)
  | .interrupted :: rest => delivered rest
  | .failed reason :: _ => .error reason

namespace Capture

open Process (Attempt delivered)

/-- The capture of all of some bytes. -/
def ofBytes (limit : Nat) (bytes : Bytes) : Capture :=
  ⟨bytes.take limit, bytes.length - limit⟩

variable (limit : Nat)

theorem add_ofBytes (seen chunk : Bytes) :
    (ofBytes limit seen).add limit chunk = ofBytes limit (seen ++ chunk) := by
  have hroom : limit - min limit seen.length = limit - seen.length := by omega
  simp only [ofBytes, add, List.take_append, List.length_take, List.length_append, mk.injEq, hroom,
    List.take_eq_take_min (l := chunk) (i := limit - seen.length), true_and]
  omega

theorem resume_ofBytes (seen : Bytes) (stream : List Attempt) :
    resume limit (ofBytes limit seen) stream =
      (delivered stream).map fun bytes => ofBytes limit (seen ++ bytes) := by
  induction stream generalizing seen with
  | nil =>
    change Except.ok (ofBytes limit seen) = .ok (ofBytes limit (seen ++ []))
    rw [List.append_nil]
  | cons a rest ih =>
    cases a with
    | chunk bytes =>
      rw [resume, add_ofBytes, ih, delivered]
      cases delivered rest with
      | error reason => rfl
      | ok more => exact congrArg (Except.ok ∘ ofBytes limit) (List.append_assoc seen bytes more)
    | interrupted => exact ih seen
    | failed reason => rfl

theorem read_eq (stream : List Attempt) :
    read limit stream = (delivered stream).map (ofBytes limit) := by
  have h := resume_ofBytes limit [] stream
  have he : ofBytes limit [] = empty := by simp [ofBytes, empty]
  rw [he] at h
  exact h

/-- The text of some bytes in a capture: as many of them as the limit allows, trimmed at the end,
and a note that counts the others if there are any. -/
def rendering (bytes : Bytes) : String :=
  String.ofList (Text.trimEnd (Text.Utf8.lossy (bytes.take limit))) ++
    if bytes.length ≤ limit then "" else note (bytes.length - limit)

/-- `text` is what is shown of some bytes: the longest beginning of what they are read as, within the
limit, that does not end with a blank character, and a note if bytes are beyond the limit. -/
inductive Shows (limit : Nat) (bytes : Bytes) : String → Prop
  | intro {body : List Char} : Text.TrimsEnd (Text.Utf8.lossy (bytes.take limit)) body →
    Shows limit bytes (String.ofList body ++
      if limit < bytes.length then note (bytes.length - limit) else "")

theorem shows_iff {bytes : Bytes} {text : String} :
    Shows limit bytes text ↔ text = rendering limit bytes := by
  have hnote : (if limit < bytes.length then note (bytes.length - limit) else "") =
      if bytes.length ≤ limit then "" else note (bytes.length - limit) := by
    split_ifs <;> first | rfl | omega
  constructor
  · rintro ⟨hbody⟩
    rw [rendering, Text.trimEnd_eq_iff.mpr hbody, hnote]
  · rintro rfl
    rw [rendering, ← hnote]
    exact .intro (Text.trimEnd_eq_iff.mp rfl)

theorem render_ofBytes (bytes : Bytes) : (ofBytes limit bytes).render = rendering limit bytes := by
  simp only [render, ofBytes, rendering, Nat.sub_eq_zero_iff_le]

end Capture

namespace Process

/-- The course of a process that ends in less than some time and brings all of its output, however
much of its input it takes. -/
inductive Course.EndsWithin (timeoutMs : Nat) : Course → Status → Bytes → Bytes → Prop
  | intro {afterMs : Nat} {status : Status} {out err : List Attempt} {stdin : Uptake}
      {stdout stderr : Bytes} (time : afterMs < timeoutMs) (out_eq : delivered out = .ok stdout)
      (err_eq : delivered err = .ok stderr) (written : stdin.written = .ok () := by rfl) :
    EndsWithin timeoutMs (.ends afterMs status out err stdin) status stdout stderr

/-- The course of a process that takes some time at least. -/
inductive Course.Outlasts (timeoutMs : Nat) : Course → Prop
  | runsOn : Outlasts timeoutMs .runsOn
  | ends {afterMs : Nat} {status : Status} {out err : List Attempt} {stdin : Uptake} :
    timeoutMs ≤ afterMs → Outlasts timeoutMs (.ends afterMs status out err stdin)

end Process

namespace Evaluator
variable (e : Evaluator) {course : Process.Course} {status : Process.Status} {stdout stderr : Bytes}

/-- What is said of a process that fails: the first text that is not empty. -/
def complaint (status : Process.Status) (stdout stderr : Bytes) : String :=
  if Capture.rendering e.outputLimit stderr ≠ "" then Capture.rendering e.outputLimit stderr
  else if Capture.rendering e.outputLimit stdout ≠ "" then Capture.rendering e.outputLimit stdout
  else statusMessage status

theorem reply_of_endsWithin (h : course.EndsWithin e.timeoutMs status stdout stderr) :
    e.reply course = .ok
      (if status.success then .value (Capture.rendering e.outputLimit stdout)
        else .error (e.complaint status stdout stderr)) := by
  obtain ⟨htime, hout, herr, hin⟩ := h
  rw [reply, if_neg (Nat.not_le.mpr htime), hin, Capture.read_eq, Capture.read_eq, hout, herr]
  change Except.ok (replyOf status (Capture.ofBytes e.outputLimit stdout)
    (Capture.ofBytes e.outputLimit stderr)) = _
  simp only [replyOf, complaint, Capture.render_ofBytes]
  split_ifs <;> rfl

theorem reply_of_outlasts (h : course.Outlasts e.timeoutMs) :
    e.reply course = .ok (.error timeoutMessage) := by
  cases h with
  | runsOn => rfl
  | ends htime => rw [reply, if_pos htime]

theorem statusMessage_ne_empty (status : Process.Status) : statusMessage status ≠ "" := by
  intro h
  have hsaid := (String.append_eq_empty_iff.mp h).1
  exact absurd hsaid (by decide)

theorem find?_complaint (status : Process.Status) (stdout stderr : Bytes) :
    [Capture.rendering e.outputLimit stderr, Capture.rendering e.outputLimit stdout,
      statusMessage status].find? (· ≠ "") = some (e.complaint status stdout stderr) := by
  have hstatus := statusMessage_ne_empty status
  unfold complaint
  split_ifs with herr hout
  · simp [herr]
  · simp only [ne_eq, not_not] at herr
    simp [herr, hout]
  · simp only [ne_eq, not_not] at herr hout
    simp [herr, hout, hstatus]

/-- The reply to a process, from how it ended and all that it wrote. -/
structure Judges (status : Process.Status) (stdout stderr : Bytes) (r : Reply) : Prop where
  value_iff : ∀ text, r = .value text ↔ status = .exited 0 ∧ Capture.Shows e.outputLimit stdout text
  error_iff : ∀ message, r = .error message ↔ status ≠ .exited 0 ∧
    ∃ out err, Capture.Shows e.outputLimit stdout out ∧ Capture.Shows e.outputLimit stderr err ∧
      [err, out, statusMessage status].find? (· ≠ "") = some message
  message_ne_empty : ∀ message, r = .error message → message ≠ ""

theorem judges (status : Process.Status) (stdout stderr : Bytes) :
    e.Judges status stdout stderr
      (if status.success then .value (Capture.rendering e.outputLimit stdout)
        else .error (e.complaint status stdout stderr)) := by
  have hfind := e.find?_complaint status stdout stderr
  have hne : e.complaint status stdout stderr ≠ "" := by simpa using List.find?_some hfind
  by_cases hs : status = .exited 0
  · rw [if_pos (by simp [Process.Status.success, hs])]
    refine ⟨fun text => ?_, fun message => ?_, fun message => ?_⟩
    · rw [Capture.shows_iff, Reply.value.injEq]
      exact ⟨fun h => ⟨hs, h.symm⟩, fun h => h.2.symm⟩
    · exact ⟨fun h => (nomatch h), fun h => absurd hs h.1⟩
    · exact fun h => (nomatch h)
  · rw [if_neg (by simp [Process.Status.success, hs])]
    refine ⟨fun text => ?_, fun message => ?_, fun message => ?_⟩
    · exact ⟨fun h => (nomatch h), fun h => absurd h.1 hs⟩
    · simp only [Capture.shows_iff, Reply.error.injEq]
      constructor
      · rintro rfl
        exact ⟨hs, _, _, rfl, rfl, hfind⟩
      · rintro ⟨-, _, _, rfl, rfl, h⟩
        exact Option.some.inj (hfind.symm.trans h)
    · rintro ⟨⟩
      exact hne

theorem evaluate_of_endsWithin {m : Machine} {source : String}
    (hm : m.start e.invocation (Bytes.ofString source) = .ok course)
    (hc : course.EndsWithin e.timeoutMs status stdout stderr) : e.evaluate m source = .ok
      (if status.success then .value (Capture.rendering e.outputLimit stdout)
        else .error (e.complaint status stdout stderr)) := by
  rw [evaluate, hm]
  exact e.reply_of_endsWithin hc

/-- An evaluator that ends in time is judged by how it ended and all that it wrote. Neither the
chunks in which that came nor how much of the input was taken matter, nor does the input. -/
theorem evaluate_judges (m : Machine) (source : String)
    (hm : m.start e.invocation (Bytes.ofString source) = .ok course)
    (hc : course.EndsWithin e.timeoutMs status stdout stderr) :
    ∃ r, e.evaluate m source = .ok r ∧ e.Judges status stdout stderr r ∧
      ∀ m' source' course', m'.start e.invocation (Bytes.ofString source') = .ok course' →
        course'.EndsWithin e.timeoutMs status stdout stderr → e.evaluate m' source' = .ok r :=
  ⟨_, e.evaluate_of_endsWithin hm hc, e.judges status stdout stderr,
    fun _ _ _ hm' hc' => e.evaluate_of_endsWithin hm' hc'⟩

/-- A program closes its input after two bytes, and fails with six blank characters in its error
stream, two of them beyond the limit: their note is the message, and not what is in the output. It
is the same for a program that takes all of its input and writes the characters one by one. -/
theorem evaluate_judges_of_blanks :
    let e : Evaluator := ⟨["p"], 1000, 4⟩
    let blanks : Bytes := [0x20, 0x20, 0x20, 0x0A, 0x0A, 0x0A]
    let course : Process.Course :=
      .ends 5 (.exited 1) [.chunk [0x34]] [.chunk blanks] (.closed 2)
    let slow : Process.Course :=
      .ends 999 (.exited 1) [.interrupted, .chunk [0x34]] (blanks.map fun b => .chunk [b])
    let m (c : Process.Course) : Machine := ⟨fun _ _ => .ok c⟩
    (m course).start e.invocation (Bytes.ofString "2+2") = .ok course ∧
      course.EndsWithin e.timeoutMs (.exited 1) [0x34] blanks ∧
      slow.EndsWithin e.timeoutMs (.exited 1) [0x34] blanks ∧
      e.evaluate (m course) "2+2" = .ok (.error "\n[output truncated 2 bytes]") ∧
      e.evaluate (m slow) "" = .ok (.error "\n[output truncated 2 bytes]") := by
  intro e blanks course slow m
  have hc : course.EndsWithin e.timeoutMs (.exited 1) [0x34] blanks := .intro (by decide) rfl rfl
  have hs : slow.EndsWithin e.timeoutMs (.exited 1) [0x34] blanks := .intro (by decide) rfl rfl
  obtain ⟨r, hr, hj, hsame⟩ := e.evaluate_judges (m course) "2+2" rfl hc
  have hmessage : r = .error "\n[output truncated 2 bytes]" :=
    (hj.error_iff _).mpr ⟨by decide, "4", "\n[output truncated 2 bytes]",
      (Capture.shows_iff _).mpr (by decide), (Capture.shows_iff _).mpr (by decide), by decide⟩
  rw [hmessage] at hr hsame
  exact ⟨rfl, hc, hs, hr, hsame (m slow) "" slow rfl hs⟩

end Evaluator
end Scratchpad
