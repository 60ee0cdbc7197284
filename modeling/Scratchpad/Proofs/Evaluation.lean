import Scratchpad.Dialogue
import Scratchpad.Proofs.Capture
import Scratchpad.Proofs.Hosting
import Scratchpad.Proofs.Json.Reading
import Scratchpad.Proofs.Session

/-!
# A text on its way to an evaluator and back

The text of an editor goes to the server as the body of a request, from there to the input of the
evaluator, and the reply comes back as JSON. Nothing on the way changes a character: a program is
fed the bytes of the text, and what the server says of its output is what the user sees.
-/

namespace Scratchpad

/-! ## The reply -/

namespace Evaluator

theorem Reply.readable_toJson (r : Reply) : Json.Readable Json.depthLimit r.toJson := by
  cases r with
  | value text => exact .string text
  | error message =>
    refine .object (List.pairwise_singleton _ _) fun m hm => ?_
    rw [List.mem_singleton.mp hm]
    exact .string message

/-- A text that says an error: an object, indented by two spaces, whose one key holds the
message. -/
structure SaysError (message shown : String) : Prop where
  form : shown = "\x7b\n  \"error\": " ++ String.ofList (Json.quote message) ++ "\n\x7d"
  reads : Json.ofBytes? (Bytes.ofString shown) = some (.object [("error", .string message)])

theorem saysError_display (message : String) :
    SaysError message (Reply.error message).toJson.display where
  form := by
    rw [← String.toList_inj]
    simp [Reply.toJson, Json.display, Json.pretty, Json.prettyChars, Json.prettyMembers,
      Json.newline, Json.quote, Json.escape]
  reads := Json.ofBytes?_pretty (Reply.readable_toJson (.error message))

end Evaluator

/-! ## The way there and back -/

theorem Server.evaluate_ofString (m : Machine) (s : Server) {text : String}
    (h : (Bytes.ofString text).length ≤ bodyLimit) : s.evaluate m (Bytes.ofString text) =
      match s.evaluator.evaluate m text with
      | .error _ => .bare 500
      | .ok reply => .typed 200 "application/json" (Bytes.ofString reply.toJson.compact) := by
  have hread : (Bytes.ofString text).text? = some text := Bytes.text?_ofString text
  rw [evaluate, if_neg (Nat.not_lt.mpr h)]
  generalize (Bytes.ofString text).text? = read at hread
  subst hread
  rfl

/-- A client whose evaluation requests reach a server. -/
structure Deployment where
  client : Client
  server : Server
  files : Files.System
  root : String
  path : String
  address : client.settings.evalUrl = root ++ path
  routed : Server.route? (Http.Target.ofString path).path = some .eval

namespace Deployment
variable (w : Deployment)

/-- The server runs its evaluator on a machine. -/
def dialogue (m : Machine) : Dialogue :=
  ⟨w.client, Http.Network.hosting w.root (w.server.answer m w.files)⟩

/-- The request that the server gets when the client has a text evaluated. -/
def received (text : String) : Http.Request :=
  ⟨.post, w.path, [("content-type", "text/plain; charset=utf-8")], Bytes.ofString text⟩

/-- What the machine starts when the evaluator is fed the bytes of a text. -/
def started (m : Machine) (text : String) : Except Process.Refusal Process.Course :=
  m.start w.server.evaluator.invocation (Bytes.ofString text)

/-- What a text comes to for the client. -/
def outcome (m : Machine) (text : String) : Outcome Json :=
  match w.server.evaluator.evaluate m text with
  | .error _ => .error (.status 500)
  | .ok reply => .ok reply.toJson

theorem outcome_eq (m : Machine) (text : String) : w.outcome m text =
    match w.started m text with
    | .error _ => .error (.status 500)
    | .ok course =>
      match w.server.evaluator.reply course with
      | .error _ => .error (.status 500)
      | .ok reply => .ok reply.toJson := by
  rw [outcome, Evaluator.evaluate, started]
  cases m.start w.server.evaluator.invocation (Bytes.ofString text) <;> rfl

theorem evaluate_eq (m : Machine) {text : String}
    (h : (Bytes.ofString text).length ≤ Server.bodyLimit) :
    w.client.evaluate (w.dialogue m).net text = w.outcome m text := by
  have hnet : (w.dialogue m).net (w.client.evalRequest text) =
      .ok ⟨(w.server.answer m w.files (w.received text)).status,
        .ok (w.server.answer m w.files (w.received text)).body⟩ := by
    rw [Client.evalRequest, w.address]
    exact Http.Network.hosting_append _ _ _ _ _ _
  have hanswer : w.server.answer m w.files (w.received text) =
      (w.server.evaluate m (Bytes.ofString text)).withHeaders [Server.anyOrigin] :=
    Server.answer_of_route m w.files w.server (w.received text) w.routed
      Http.Method.noConfusion rfl Http.Method.noConfusion
  rw [Client.evaluate, hnet, hanswer, Server.evaluate_ofString m w.server h, outcome]
  cases w.server.evaluator.evaluate m text with
  | error e => exact Client.outcomeOf_of_not_success (by decide : Http.isSuccess 500 = false)
  | ok reply =>
    exact Client.outcomeOf_of_success (by decide : Http.isSuccess 200 = true)
      (Json.ofBytes?_compact reply.readable_toJson)

/-- Submits the text of a session, takes some turns, and settles the response. -/
def submit {σ : Type} (d : Device σ) (m : Machine) (s : Session σ) (between : List Session.Turn) :
    Session σ × Trace :=
  let s' := ((s.apply d (.command .submit)).1.play d between).1
  let r : Request := .evaluate ⟨s.pad.editor.issued + 1⟩ s.pad.editor.text
  s'.apply d (.message ((w.dialogue m).completion r))

end Deployment

/-! ## The session -/

namespace Pad
variable (p : Pad)

theorem take_result_of_not_completion {i : Input} (h : i.completion? = none) :
    (p.take i).editor.result = p.editor.result := by
  unfold take
  cases hr : p.reading? i with
  | none => rfl
  | some m =>
    exact p.update_result_of_not_completion m ((responses_of_reading? hr).1.trans h)

theorem takeAll_result_of_no_completion {inputs : List Input}
    (h : ∀ i ∈ inputs, i.completion? = none) :
    (p.takeAll inputs).editor.result = p.editor.result := by
  induction inputs generalizing p with
  | nil => rfl
  | cons i rest ih =>
    change ((p.take i).takeAll rest).editor.result = _
    rw [ih (p.take i) fun j hj => h j (List.mem_cons_of_mem _ hj),
      p.take_result_of_not_completion (h i List.mem_cons_self)]

/-- The response to the last request is heeded under any policy. -/
theorem settle_last (outcome : Outcome Json) :
    let i : Input := .message (.evalFinished ⟨p.editor.issued⟩ outcome)
    (p.take i).editor.result = outcome.toOption.or p.editor.result ∧
      ((p.disposition? i).bind fun c => c.2.report? c.1) =
        match outcome with
        | .ok _ => none
        | .error f => some (.evalFailed ⟨p.editor.issued⟩ f) := by
  have hs : p.editor.supersededBy? ⟨p.editor.issued⟩ = none :=
    (p.editor.supersededBy?_eq_none_iff _).mpr fun _ _ => rfl
  intro i
  change (p.update (.evalFinished ⟨p.editor.issued⟩ outcome)).1.editor.result = _ ∧
    (p.editor.finish ⟨p.editor.issued⟩ outcome).2.report? ⟨p.editor.issued⟩ = _
  rw [update_editor]
  dsimp only
  cases outcome with
  | error f => exact ⟨rfl, rfl⟩
  | ok v =>
    rw [Editor.finish_ok_of_current _ _ v hs]
    exact ⟨rfl, rfl⟩

end Pad

namespace Deployment
variable {σ : Type} (d : Device σ) (w : Deployment) (m : Machine) (s : Session σ)
  {between : List Session.Turn}

theorem submit_eq_settle (between : List Session.Turn)
    (hlen : (Bytes.ofString s.pad.editor.text).length ≤ Server.bodyLimit) :
    w.submit d m s between = ((s.apply d (.command .submit)).1.play d between).1.apply d
      (.message (.evalFinished ⟨s.pad.editor.issued + 1⟩ (w.outcome m s.pad.editor.text))) := by
  rw [← w.evaluate_eq m hlen]
  rfl

/-- What the user has in the end: the text of the pane, and what was reported of the response. -/
def ending (between : List Session.Turn) : Option String × List Event :=
  ((Frame.ofPad (w.submit d m s between).1.pad).result,
    (w.submit d m s between).2.log.filter Event.isReport)

theorem ending_eq (hlen : (Bytes.ofString s.pad.editor.text).length ≤ Server.bodyLimit)
    (hq : ∀ i ∈ Session.Turn.inputs between, i.isSubmit = false ∧ i.completion? = none) :
    w.ending d m s between = match w.outcome m s.pad.editor.text with
      | .ok v => (some v.display, [])
      | .error f =>
        ((Frame.ofPad s.pad).result, [.evalFailed ⟨s.pad.editor.issued + 1⟩ f]) := by
  let s' := ((s.apply d (.command .submit)).1.play d between).1
  have hpad : s'.pad = (s.pad.take (.command .submit)).takeAll (Session.Turn.inputs between) := by
    rw [Session.play_pad, Session.apply_pad]
  have hissued : s'.pad.editor.issued = s.pad.editor.issued + 1 := by
    have hn : (Session.Turn.inputs between).countP Input.isSubmit = 0 :=
      List.countP_eq_zero.mpr fun i hi => by rw [(hq i hi).1]; decide
    rw [hpad, Pad.takeAll_issued, hn, Pad.take_issued]
    rfl
  have hresult : s'.pad.editor.result = s.pad.editor.result := by
    rw [hpad, Pad.takeAll_result_of_no_completion _ fun i hi => (hq i hi).2,
      Pad.take_result_of_not_completion _ rfl]
  obtain ⟨hr, hd⟩ := s'.pad.settle_last (w.outcome m s.pad.editor.text)
  rw [hissued] at hr hd
  rw [ending, w.submit_eq_settle d m s between hlen, Frame.ofPad, Session.apply_pad, hr, hresult,
    Session.apply_reports, hd]
  cases w.outcome m s.pad.editor.text <;> rfl

/-- What the submission of the text of `s` comes to, by what is started for that text. -/
structure Answered (between : List Session.Turn) : Prop where
  requested : (s.apply d (.command .submit)).2.requests =
    [.evaluate ⟨s.pad.editor.issued + 1⟩ s.pad.editor.text]
  /-- Nothing else that the machine may start matters. -/
  fed : ∀ m', w.started m' s.pad.editor.text = w.started m s.pad.editor.text →
    w.submit d m' s between = w.submit d m s between
  value : ∀ course stdout stderr, w.started m s.pad.editor.text = .ok course →
    course.EndsWithin w.server.evaluator.timeoutMs (.exited 0) stdout stderr →
    w.ending d m s between = (some (Capture.rendering w.server.evaluator.outputLimit stdout), [])
  error : ∀ course status stdout stderr, w.started m s.pad.editor.text = .ok course →
    course.EndsWithin w.server.evaluator.timeoutMs status stdout stderr → status ≠ .exited 0 →
    ∃ shown, w.ending d m s between = (some shown, []) ∧
      Evaluator.SaysError (w.server.evaluator.complaint status stdout stderr) shown
  late : ∀ course, w.started m s.pad.editor.text = .ok course →
    course.Outlasts w.server.evaluator.timeoutMs →
    ∃ shown, w.ending d m s between = (some shown, []) ∧
      Evaluator.SaysError Evaluator.timeoutMessage shown
  refused : ∀ reason, w.started m s.pad.editor.text = .error reason →
    w.ending d m s between = ((Frame.ofPad s.pad).result,
      [.evalFailed ⟨s.pad.editor.issued + 1⟩ (.status 500)])

theorem ending_of_reply (hlen : (Bytes.ofString s.pad.editor.text).length ≤ Server.bodyLimit)
    (hq : ∀ i ∈ Session.Turn.inputs between, i.isSubmit = false ∧ i.completion? = none)
    {course : Process.Course} {reply : Evaluator.Reply}
    (hm : w.started m s.pad.editor.text = .ok course)
    (hr : w.server.evaluator.reply course = .ok reply) :
    w.ending d m s between = (some reply.toJson.display, []) := by
  simp only [w.ending_eq d m s hlen hq, outcome_eq, hm, hr]

/-- Any text within the limit of the server, whatever other turns are taken until the response is
there. -/
theorem answered (hlen : (Bytes.ofString s.pad.editor.text).length ≤ Server.bodyLimit)
    (hq : ∀ i ∈ Session.Turn.inputs between, i.isSubmit = false ∧ i.completion? = none) :
    w.Answered d m s between where
  requested := by rw [Session.apply_requests]; rfl
  fed m' h := by
    rw [submit_eq_settle _ _ _ _ _ hlen, submit_eq_settle _ _ _ _ _ hlen, outcome_eq, outcome_eq, h]
  value course stdout stderr hm hc :=
    w.ending_of_reply d m s hlen hq hm (w.server.evaluator.reply_of_endsWithin hc)
  error course status stdout stderr hm hc hs := by
    have hfail : status.success = false := by simpa [Process.Status.success] using hs
    have hr := w.server.evaluator.reply_of_endsWithin hc
    rw [hfail] at hr
    exact ⟨_, w.ending_of_reply d m s hlen hq hm hr, Evaluator.saysError_display _⟩
  late course hm hc :=
    ⟨_, w.ending_of_reply d m s hlen hq hm (w.server.evaluator.reply_of_outlasts hc),
      Evaluator.saysError_display _⟩
  refused reason hm := by simp only [w.ending_eq d m s hlen hq, outcome_eq, hm]

/-- A program that is fed a text with a quote and a character of two bytes writes six bytes, of
which the server keeps four, or fails with a quote in its complaint; the text is changed before the
response is there. -/
theorem answered_of_program :
    let w : Deployment :=
      { client := ⟨.forServer "http://h", by decide⟩, server := ⟨⟨["p"], 1000, 4⟩, "[]", none⟩,
        files := ⟨.dir ⟨0o755, 0, none, none, 0, 0⟩ [], [], 0, 0o022⟩, root := "http://h",
        path := "/eval", address := by decide, routed := by decide }
    let s : Session Tank :=
      ⟨((Pad.empty .latestIssued).update (.textChanged "2+2\"é")).1, .blank .unlimited, []⟩
    let between : List Session.Turn := [.tick, .input (.command (.append "x"))]
    let course (status : Process.Status) (stdout : Bytes) : Process.Course :=
      .ends 5 status [.chunk stdout, .interrupted, .chunk [0x0A, 0x0A]] []
    let program (status : Process.Status) (stdout : Bytes) : Machine := ⟨fun _ input =>
      if input = [0x32, 0x2B, 0x32, 0x22, 0xC3, 0xA9] then .ok (course status stdout)
      else .error .nulInCommand⟩
    (Bytes.ofString s.pad.editor.text).length ≤ Server.bodyLimit ∧
      (∀ i ∈ Session.Turn.inputs between, i.isSubmit = false ∧ i.completion? = none) ∧
      w.ending Tank.device (program (.exited 0) [0x34, 0xC3, 0xA9, 0x20]) s between =
        (some "4é\n[output truncated 2 bytes]", []) ∧
      ∃ shown, w.ending Tank.device (program (.exited 1) [0x22]) s between = (some shown, []) ∧
        Evaluator.SaysError "\"" shown := by
  intro w s between course program
  have hlen : (Bytes.ofString s.pad.editor.text).length ≤ Server.bodyLimit := by decide
  have hq : ∀ i ∈ Session.Turn.inputs between, i.isSubmit = false ∧ i.completion? = none := by
    simp [between, Session.Turn.inputs, Session.Turn.input?, Input.isSubmit, Input.completion?]
  have hend (status : Process.Status) (stdout : Bytes) :
      (course status stdout).EndsWithin 1000 status (stdout ++ [0x0A, 0x0A]) [] :=
    .intro (by decide) rfl rfl
  have hstart (status : Process.Status) (stdout : Bytes) :
      w.started (program status stdout) s.pad.editor.text = .ok (course status stdout) :=
    if_pos (by decide)
  have hkept : Capture.rendering 4 [0x34, 0xC3, 0xA9, 0x20, 0x0A, 0x0A] =
      "4é\n[output truncated 2 bytes]" := by decide
  have hsaid : w.server.evaluator.complaint (.exited 1) [0x22, 0x0A, 0x0A] [] = "\"" := by decide
  refine ⟨hlen, hq, ?_, ?_⟩
  · rw [← hkept]
    exact (w.answered Tank.device (program (.exited 0) [0x34, 0xC3, 0xA9, 0x20]) s hlen hq).value
      _ _ _ (hstart _ _) (hend _ _)
  · rw [← hsaid]
    exact (w.answered Tank.device (program (.exited 1) [0x22]) s hlen hq).error
      _ _ _ _ (hstart _ _) (hend _ _) (by decide)

end Deployment

end Scratchpad
