import Scratchpad.CommandLine.ClientRun
import Scratchpad.Proofs.Evaluation
import Scratchpad.Proofs.SettingsLoad

/-!
# What a run of the client tells

A run that is not a session ends in one of three ways: it is turned away, it fails, or it is done;
its exit code says which, and only a run that is done prints anything. A text is evaluated by a
session of its own, which makes one request, with that text, and whose result is there exactly if
the answer to that request is a value.
-/

namespace Scratchpad

open Files (Path)

/-! ## Clients -/

/-- What a client sends for a request of a session. -/
def Client.requestFor (c : Client) : Request → Http.Request
  | .evaluate _ text => c.evalRequest text
  | .fetchCatalog => c.examplesRequest

theorem Client.settings_of_ofSettings {s : Settings} {c : Client} (h : ofSettings s = .ok c) :
    c.settings = s := by
  unfold ofSettings at h
  split at h
  · cases h
  · cases h
    rfl

theorem Client.ofSettings_of_usable {s : Settings} (h : s.fault? = none) :
    ofSettings s = .ok ⟨s, h⟩ := by
  unfold ofSettings
  split
  · rename_i hf
    cases h.symm.trans hf
  · rfl

/-! ## One evaluation -/

namespace Dialogue
variable {σ : Type} (d : Device σ) (g : Dialogue) (text : String)

/-- The turns of a session that evaluates one text: it is given the text, the text is submitted, and
the first request is answered. -/
def once : List Session.Turn :=
  [.input (.message (.textChanged text)), .input (.message .submit),
    .input (.message (g.completion (.evaluate ⟨1⟩ text)))]

/-- The session after these turns, and all that it did in them. -/
def playOnce : Session Unit × Trace :=
  (Session.start g.client.settings.responsePolicy ()).play silent (g.once text)

theorem answer_singleton {s : Session σ} (h : s.queue = []) (r : Request) :
    g.answer d s [r] = (s.apply d (.message (g.completion r))).1 := by
  obtain ⟨pad, screen, queue⟩ := s
  cases h
  rfl

theorem playOnce_requests : (g.playOnce text).2.requests = [.evaluate ⟨1⟩ text] := by
  have hsubmit (s : Session Unit) : (s.dispatch silent .submit).2.requests =
      [.evaluate ⟨s.pad.editor.issued + 1⟩ s.pad.editor.text] := by
    rw [Session.dispatch_requests, Pad.update_requests]
  have htext (s : Session Unit) : (s.dispatch silent (.textChanged text)).2.requests = [] := by
    rw [Session.dispatch_requests, Pad.update_requests]
  have hanswer (s : Session Unit) (outcome : Outcome Json) :
      (s.dispatch silent (.evalFinished ⟨1⟩ outcome)).2.requests = [] := by
    rw [Session.dispatch_requests, Pad.update_requests]
  simp only [playOnce, once, Session.play, Session.turn, Session.apply, completion,
    Trace.append_requests, hsubmit, htext, hanswer, Session.dispatch_pad, Trace.append_nothing]
  rfl

/-- The result is the value of the answer, under any policy; the text may be empty. -/
theorem playOnce_result : (g.playOnce text).1.pad.editor.result =
    (g.client.evaluate g.net text).toOption := by
  -- the ticket that is answered is the last one taken, so no policy drops the answer
  let p : Pad := ((Pad.empty g.client.settings.responsePolicy).take
    (.message (.textChanged text))).take (.message .submit)
  have hpad : (g.playOnce text).1.pad =
      p.take (.message (.evalFinished ⟨p.editor.issued⟩ (g.client.evaluate g.net text))) :=
    Session.play_pad silent _ _
  have hresult := (p.settle_last (g.client.evaluate g.net text)).1
  have hnone : p.editor.result = none := rfl
  rw [hpad, hresult, hnone, Option.or_none]

theorem evaluateOnce_eq_playOnce :
    g.evaluateOnce text = (g.playOnce text).1.pad.editor.result := by
  let s := ((Session.start g.client.settings.responsePolicy ()).dispatch silent
    (.textChanged text)).1
  have hrequests : (s.dispatch silent .submit).2.requests = [.evaluate ⟨1⟩ text] := by
    rw [Session.dispatch_requests, Session.dispatch_pad]
    rfl
  have hqueue : (s.dispatch silent .submit).1.queue = [] := by
    rw [Session.dispatch_queue, Session.dispatch_queue]
    rfl
  change (g.answer silent (s.dispatch silent .submit).1
    (s.dispatch silent .submit).2.requests).pad.editor.result = _
  rw [hrequests, answer_singleton silent g hqueue]
  rfl

end Dialogue

/-! ## Runs -/

namespace CommandLine.ClientRun

variable {around : Surroundings} {a : ClientArguments} {refusal : Settings → Option String}
  {file : Option Path} {path : Path} {s : Settings} {c : Client} {text : String} {r : Report}

/-- A client of some settings. What carries its requests may refuse to be set up. -/
def build (refusal : Settings → Option String) (s : Settings) : Except (List String) Client :=
  match Client.ofSettings s with
  | .error f => .error [f.message]
  | .ok c =>
    match refusal s with
    | some cause => .error ["build http client", cause]
    | none => .ok c

/-- A run whose client may be refused. -/
def runWith (refusal : Settings → Option String) (around : Surroundings) (a : ClientArguments) :
    Files.System × Report :=
  match Settings.resolve around.files a.config a.server with
  | .error e => (around.files, .complained Report.wrong (chain e.causes))
  | .ok s =>
    match a.task with
    | .init force => init around.files a.config force s
    | task =>
      (around.files, match build refusal s with
        | .error causes => .complained Report.failed (chain causes)
        | .ok c => request around c task)

/-- A run is one in which no client is refused. -/
theorem runWith_none (around : Surroundings) (a : ClientArguments) :
    runWith (fun _ => none) around a = run around a := by
  unfold runWith run build
  cases Settings.resolve around.files a.config a.server with
  | error e => rfl
  | ok s =>
    cases a.task with
    | init force => rfl
    | _ => cases hc : Client.ofSettings s <;> simp only [hc]

theorem settings_of_build (h : build refusal s = .ok c) : c.settings = s := by
  unfold build at h
  cases hc : Client.ofSettings s with
  | error f =>
    simp only [hc] at h
    cases h
  | ok c' =>
    have hsettings : c'.settings = s := Client.settings_of_ofSettings hc
    simp only [hc] at h
    cases hr : refusal s with
    | some cause =>
      simp only [hr] at h
      cases h
    | none =>
      simp only [hr] at h
      cases h
      exact hsettings

/-- `text` is what a source holds: a file, or the standard input. -/
inductive Provides (around : Surroundings) : Option Path → String → Prop
  | file {path : Path} {text : String} :
    around.files.readText path = .ok text → Provides around (some path) text
  | input {text : String} : around.input = Bytes.ofString text → Provides around none text

theorem source_eq_ok_iff : source around file = .ok text ↔ Provides around file text := by
  cases file with
  | some path =>
    have hfile : Provides around (some path) text ↔ around.files.readText path = .ok text :=
      ⟨fun | .file h => h, .file⟩
    rw [hfile, source]
    cases around.files.readText path <;> simp [Except.mapError]
  | none =>
    have hinput : Provides around none text ↔ around.input.text? = some text :=
      ⟨fun | .input h => Bytes.text?_eq_some_iff.mpr h,
        fun h => .input (Bytes.text?_eq_some_iff.mp h)⟩
    rw [hinput, source]
    cases around.input.text? <;> simp

/-- The settings of a run cannot be resolved, or it would write them over what is there without being
told to. -/
inductive TurnedAway (around : Surroundings) (a : ClientArguments) : Prop
  | unresolved {e : Settings.LoadError} :
    Settings.resolve around.files a.config a.server = .error e → TurnedAway around a
  | occupied : a.task = .init false → around.files.pathExists a.config = true →
    TurnedAway around a

/-- A task fails with some settings: they cannot be written, or the source cannot be read, or the
request comes to nothing. Without a client it does so too. -/
inductive Falters (refusal : Settings → Option String) (around : Surroundings) (path : Path)
    (s : Settings) : Task → Prop
  | writing {force : Bool} {e : Settings.StoreError} :
    (around.files.pathExists path = true → force = true) →
    (Settings.store around.files path s).2 = .error e →
    Falters refusal around path s (.init force)
  | reading {file : Option Path} : (∀ text, ¬ Provides around file text) →
    Falters refusal around path s (.eval file)
  | evaluating {file : Option Path} {text : String} : Provides around file text →
    (∀ c v, build refusal s = .ok c → c.evaluate around.net text ≠ .ok v) →
    Falters refusal around path s (.eval file)
  | listing : (∀ c entries, build refusal s = .ok c → c.fetchExamples around.net ≠ .ok entries) →
    Falters refusal around path s .examples

/-- A task is done with some settings, and prints a text. -/
inductive Completes (refusal : Settings → Option String) (around : Surroundings) (path : Path)
    (s : Settings) : Task → String → Prop
  | writing {force : Bool} : (around.files.pathExists path = true → force = true) →
    (Settings.store around.files path s).2 = .ok () →
    Completes refusal around path s (.init force) ("wrote " ++ path.display ++ "\n")
  | evaluating {file : Option Path} {text : String} {c : Client} {v : Json} :
    Provides around file text → build refusal s = .ok c →
    c.evaluate around.net text = .ok v →
    Completes refusal around path s (.eval file) (v.display ++ "\n")
  | listing {c : Client} {entries : List Entry} : build refusal s = .ok c →
    c.fetchExamples around.net = .ok entries →
    Completes refusal around path s .examples
      (String.join (entries.map fun e => e.name ++ "\n"))

/-- How a run ends, with its report. -/
inductive Ends (refusal : Settings → Option String) (around : Surroundings) (a : ClientArguments) :
    Report → Prop
  | turnedAway {complaint : String} : TurnedAway around a →
    Ends refusal around a (.complained Report.wrong complaint)
  | falters {s : Settings} {stderr : Bytes} :
    Settings.resolve around.files a.config a.server = .ok s →
    Falters refusal around a.config s a.task → Ends refusal around a ⟨Report.failed, [], stderr⟩
  | completes {s : Settings} {text : String} :
    Settings.resolve around.files a.config a.server = .ok s →
    Completes refusal around a.config s a.task text →
    Ends refusal around a (.said (Bytes.ofString text))

theorem Ends.of_falters {task : Task} {stderr : Bytes} (htask : a.task = task)
    (hs : Settings.resolve around.files a.config a.server = .ok s)
    (h : Falters refusal around a.config s task) :
    Ends refusal around a ⟨Report.failed, [], stderr⟩ :=
  .falters hs (htask ▸ h)

theorem Ends.of_completes {task : Task} (htask : a.task = task)
    (hs : Settings.resolve around.files a.config a.server = .ok s)
    (h : Completes refusal around a.config s task text) :
    Ends refusal around a (.said (Bytes.ofString text)) :=
  .completes hs (htask ▸ h)

/-! ## The three ways to end -/

theorem eval_eq (net : Http.Network) (c : Client) (text : String) : eval net c text =
    match c.evaluate net text with
    | .ok v => .said (Bytes.ofString (v.display ++ "\n"))
    | .error _ => ⟨Report.failed, [], []⟩ := by
  rw [eval, Dialogue.evaluateOnce_eq_playOnce, Dialogue.playOnce_result]
  cases c.evaluate net text <;> rfl

theorem ends_init {force : Bool} (htask : a.task = .init force)
    (hs : Settings.resolve around.files a.config a.server = .ok s) :
    Ends refusal around a (init around.files a.config force s).2 := by
  unfold init
  split
  · rename_i hguard
    obtain ⟨hexists, hforce⟩ := Bool.and_eq_true_iff.mp hguard
    cases force with
    | true => cases hforce
    | false => exact .turnedAway (.occupied htask hexists)
  · rename_i hguard
    have hmay : around.files.pathExists a.config = true → force = true := by
      intro hexists
      simpa [hexists] using hguard
    cases hstore : Settings.store around.files a.config s with
    | mk fs' result =>
      cases result with
      | ok u => exact .of_completes htask hs (.writing hmay (congrArg Prod.snd hstore))
      | error e => exact .of_falters htask hs (.writing hmay (congrArg Prod.snd hstore))

theorem request_of_provides (h : Provides around file text) :
    request around c (.eval file) = eval around.net c text := by
  simp only [request, source_eq_ok_iff.mpr h]

theorem ends_eval (htask : a.task = .eval file)
    (hs : Settings.resolve around.files a.config a.server = .ok s) (hc : build refusal s = .ok c) :
    Ends refusal around a (request around c (.eval file)) := by
  cases htext : source around file with
  | error causes =>
    have hreport : request around c (.eval file) = .complained Report.failed (chain causes) := by
      simp only [request, htext]
    rw [hreport]
    refine .of_falters htask hs (.reading fun text hprovides => ?_)
    cases htext.symm.trans (source_eq_ok_iff.mpr hprovides)
  | ok text =>
    have hprovides : Provides around file text := source_eq_ok_iff.mp htext
    rw [request_of_provides hprovides, eval_eq]
    cases hv : c.evaluate around.net text with
    | ok v => exact .of_completes htask hs (.evaluating hprovides hc hv)
    | error f =>
      refine .of_falters htask hs (.evaluating hprovides fun c' v hc' hv' => ?_)
      cases hc.symm.trans hc'
      cases hv.symm.trans hv'

theorem ends_examples (htask : a.task = .examples)
    (hs : Settings.resolve around.files a.config a.server = .ok s) (hc : build refusal s = .ok c) :
    Ends refusal around a (request around c .examples) := by
  change Ends refusal around a (examples around.net c)
  unfold examples
  cases hv : c.fetchExamples around.net with
  | ok entries => exact .of_completes htask hs (.listing hc hv)
  | error f =>
    refine .of_falters htask hs (.listing fun c' entries hc' hv' => ?_)
    cases hc.symm.trans hc'
    cases hv.symm.trans hv'

/-- Without a client there is nothing that a request can come to. -/
theorem ends_of_refused {causes : List String} (hrequests : ∀ force, a.task ≠ .init force)
    (hsession : a.task ≠ .session)
    (hs : Settings.resolve around.files a.config a.server = .ok s)
    (hc : build refusal s = .error causes) :
    Ends refusal around a (.complained Report.failed (chain causes)) := by
  have hnone : ∀ c, build refusal s ≠ .ok c := fun c hok => by cases hc.symm.trans hok
  refine .falters hs ?_
  cases htask : a.task with
  | init force => exact absurd htask (hrequests force)
  | session => exact absurd htask hsession
  | examples => exact .listing fun c _ hok => absurd hok (hnone c)
  | eval file =>
    by_cases htext : ∃ text, Provides around file text
    · obtain ⟨text, hprovides⟩ := htext
      exact .evaluating hprovides fun c _ hok => absurd hok (hnone c)
    · exact .reading (not_exists.mp htext)

theorem runWith_of_error {e : Settings.LoadError}
    (h : Settings.resolve around.files a.config a.server = .error e) :
    runWith refusal around a = (around.files, .complained Report.wrong (chain e.causes)) := by
  simp only [runWith, h]

theorem runWith_of_init {force : Bool} (htask : a.task = .init force)
    (hs : Settings.resolve around.files a.config a.server = .ok s) :
    runWith refusal around a = init around.files a.config force s := by
  simp only [runWith, hs, htask]

theorem runWith_of_request (hrequests : ∀ force, a.task ≠ .init force)
    (hs : Settings.resolve around.files a.config a.server = .ok s) :
    runWith refusal around a = (around.files, match build refusal s with
      | .error causes => .complained Report.failed (chain causes)
      | .ok c => request around c a.task) := by
  simp only [runWith, hs]

/-- Every run but a session ends in one of the three ways. -/
theorem ends_runWith (hsession : a.task ≠ .session) :
    Ends refusal around a (runWith refusal around a).2 := by
  cases hs : Settings.resolve around.files a.config a.server with
  | error e =>
    rw [runWith_of_error hs]
    exact .turnedAway (.unresolved hs)
  | ok s =>
    by_cases hinit : ∃ force, a.task = .init force
    · obtain ⟨force, htask⟩ := hinit
      rw [runWith_of_init htask hs]
      exact ends_init htask hs
    · have hrequests : ∀ force, a.task ≠ .init force := not_exists.mp hinit
      rw [runWith_of_request hrequests hs]
      cases hc : build refusal s with
      | error causes => exact ends_of_refused hrequests hsession hs hc
      | ok c =>
        cases htask : a.task with
        | init force => exact absurd htask (hrequests force)
        | session => exact absurd htask hsession
        | examples => exact ends_examples htask hs hc
        | eval file => exact ends_eval htask hs hc

/-! ## No two of them at once -/

theorem TurnedAway.task_eq (h : TurnedAway around a)
    (hs : Settings.resolve around.files a.config a.server = .ok s) :
    a.task = .init false ∧ around.files.pathExists a.config = true := by
  cases h with
  | unresolved he => cases he.symm.trans hs
  | occupied htask hexists => exact ⟨htask, hexists⟩

theorem TurnedAway.not_falters (h : TurnedAway around a)
    (hs : Settings.resolve around.files a.config a.server = .ok s) :
    ¬ Falters refusal around a.config s a.task := by
  obtain ⟨htask, hexists⟩ := h.task_eq hs
  rw [htask]
  rintro ⟨hmay⟩
  cases hmay hexists

theorem TurnedAway.not_completes (h : TurnedAway around a)
    (hs : Settings.resolve around.files a.config a.server = .ok s) :
    ¬ Completes refusal around a.config s a.task text := by
  obtain ⟨htask, hexists⟩ := h.task_eq hs
  rw [htask]
  rintro ⟨hmay⟩
  cases hmay hexists

theorem Provides.unique {text' : String} (h : Provides around file text)
    (h' : Provides around file text') : text = text' :=
  Except.ok.inj ((source_eq_ok_iff.mpr h).symm.trans (source_eq_ok_iff.mpr h'))

theorem Completes.not_falters {task : Task} (h : Completes refusal around path s task text) :
    ¬ Falters refusal around path s task := by
  intro hf
  cases h with
  | writing hmay hok =>
    cases hf with
    | writing _ herror => cases hok.symm.trans herror
  | evaluating hprovides hc hv =>
    cases hf with
    | reading hnone => exact hnone _ hprovides
    | evaluating hprovides' hnone =>
      cases hprovides.unique hprovides'
      exact hnone _ _ hc hv
  | listing hc hv =>
    cases hf with
    | listing hnone => exact hnone _ _ hc hv

/-! ## Exit codes and output -/

theorem Ends.wrong_iff (h : Ends refusal around a r) : r.code = 2 ↔ TurnedAway around a := by
  cases h with
  | turnedAway haway => exact ⟨fun _ => haway, fun _ => rfl⟩
  | falters hs hf =>
    exact ⟨fun hcode => absurd hcode (by decide : Report.failed ≠ 2),
      fun haway => absurd hf (haway.not_falters hs)⟩
  | completes hs hc =>
    exact ⟨fun hcode => absurd hcode (by decide : 0 ≠ 2),
      fun haway => absurd hc (haway.not_completes hs)⟩

theorem Ends.failed_iff (h : Ends refusal around a r) : r.code = 1 ↔
    ∃ s, Settings.resolve around.files a.config a.server = .ok s ∧
      Falters refusal around a.config s a.task := by
  cases h with
  | turnedAway haway =>
    refine ⟨fun hcode => absurd hcode (by decide : Report.wrong ≠ 1), ?_⟩
    rintro ⟨s, hs, hf⟩
    exact absurd hf (haway.not_falters hs)
  | falters hs hf => exact ⟨fun _ => ⟨_, hs, hf⟩, fun _ => rfl⟩
  | completes hs hc =>
    refine ⟨fun hcode => absurd hcode (by decide : 0 ≠ 1), ?_⟩
    rintro ⟨s, hs', hf⟩
    cases hs.symm.trans hs'
    exact absurd hf hc.not_falters

theorem Ends.code_cases (h : Ends refusal around a r) :
    r.code = 2 ∨ r.code = 1 ∨ r.code = 0 := by
  cases h with
  | turnedAway => exact .inl rfl
  | falters => exact .inr (.inl rfl)
  | completes => exact .inr (.inr rfl)

theorem Ends.success_iff (h : Ends refusal around a r) : r.code = 0 ↔ ¬ TurnedAway around a ∧
    ∀ s, Settings.resolve around.files a.config a.server = .ok s →
      ¬ Falters refusal around a.config s a.task := by
  have hothers : r.code = 0 ↔ ¬ r.code = 2 ∧ ¬ r.code = 1 := by
    have hcases := h.code_cases
    omega
  rw [hothers, h.wrong_iff, h.failed_iff]
  simp only [not_exists, not_and]

theorem Ends.quiet (h : Ends refusal around a r) (hcode : r.code ≠ 0) : r.stdout = [] := by
  cases h with
  | turnedAway => rfl
  | falters => rfl
  | completes => exact absurd rfl hcode

/-- What is printed for a list of names: each of them, and the end of its line. -/
theorem ofString_lines (names : List String) :
    Bytes.ofString (String.join (names.map (· ++ "\n"))) =
      names.flatMap fun name => Bytes.ofString name ++ [0x0A] := by
  have hline : Bytes.ofString "\n" = [0x0A] := by decide
  rw [Bytes.ofString_join, List.map_map, List.flatMap_def]
  simp only [Function.comp_def, Bytes.ofString_append, hline]

theorem Provides.of_net (h : Provides around file text) (net : Http.Network) :
    Provides { around with net := net } file text := by
  cases h with
  | file h => exact .file h
  | input h => exact .input h

theorem runWith_of_eval (htask : a.task = .eval file)
    (hs : Settings.resolve around.files a.config a.server = .ok s) (hc : build refusal s = .ok c)
    (htext : Provides around file text) :
    runWith refusal around a = (around.files, eval around.net c text) := by
  have hrequests : ∀ force, a.task ≠ .init force := fun force h => by cases htask.symm.trans h
  rw [runWith_of_request hrequests hs, hc, htask]
  exact congrArg (Prod.mk around.files) (request_of_provides htext)

/-- The evaluation of a text: its session makes one request, with that text, and the report is read
off the result of the session; nothing of the network is looked at but the answer to that request,
and only if that is a value is the run a success, which prints it. -/
structure Evaluates (refusal : Settings → Option String) (around : Surroundings)
    (a : ClientArguments) (s : Settings) (c : Client) (text : String) (r : Report) : Prop where
  sent : ((Dialogue.mk c around.net).playOnce text).2.requests.map c.requestFor =
    [⟨.post, s.evalUrl, [("content-type", "text/plain; charset=utf-8")], Bytes.ofString text⟩]
  shown : r = ((Dialogue.mk c around.net).playOnce text).1.pad.editor.result.elim
    ⟨Report.failed, [], []⟩ fun v => .said (Bytes.ofString (v.display ++ "\n"))
  alone : ∀ net, net (c.evalRequest text) = around.net (c.evalRequest text) →
    (runWith refusal { around with net := net } a).2 = r
  success_iff : r.code = 0 ↔ ∃ v, c.evaluate around.net text = .ok v
  printed : ∀ v, c.evaluate around.net text = .ok v → r.stdout = Bytes.ofString v.display ++ [0x0A]

theorem evaluates_runWith (htask : a.task = .eval file)
    (hs : Settings.resolve around.files a.config a.server = .ok s) (hc : build refusal s = .ok c)
    (htext : Provides around file text) :
    Evaluates refusal around a s c text (runWith refusal around a).2 := by
  have hrun : (runWith refusal around a).2 = eval around.net c text :=
    congrArg Prod.snd (runWith_of_eval htask hs hc htext)
  constructor
  case sent =>
    rw [Dialogue.playOnce_requests, ← settings_of_build hc]
    rfl
  case shown =>
    rw [hrun, eval, Dialogue.evaluateOnce_eq_playOnce]
    cases ((Dialogue.mk c around.net).playOnce text).1.pad.editor.result <;> rfl
  case alone =>
    intro net hnet
    have hsame : c.evaluate net text = c.evaluate around.net text := by
      rw [Client.evaluate, Client.evaluate, hnet]
    have hrun' : runWith refusal { around with net := net } a = (around.files, eval net c text) :=
      runWith_of_eval htask hs hc (htext.of_net net)
    rw [hrun', hrun, eval_eq, eval_eq, hsame]
  case success_iff =>
    rw [hrun, eval_eq]
    cases c.evaluate around.net text with
    | ok v => exact ⟨fun _ => ⟨v, rfl⟩, fun _ => rfl⟩
    | error f =>
      refine ⟨fun hcode => absurd hcode (by decide : Report.failed ≠ 0), ?_⟩
      rintro ⟨v, hv⟩
      cases hv
  case printed =>
    intro v hv
    have hline : Bytes.ofString "\n" = [0x0A] := by decide
    rw [hrun, eval_eq, hv, ← hline, ← Bytes.ofString_append]
    rfl

theorem lists_runWith {entries : List Entry} (htask : a.task = .examples)
    (hs : Settings.resolve around.files a.config a.server = .ok s) (hc : build refusal s = .ok c)
    (hv : c.fetchExamples around.net = .ok entries) :
    (runWith refusal around a).2 =
      .said ((entries.map Entry.name).flatMap fun name => Bytes.ofString name ++ [0x0A]) := by
  have hrequests : ∀ force, a.task ≠ .init force := fun force h => by cases htask.symm.trans h
  have hexamples : request around c .examples = examples around.net c := rfl
  rw [runWith_of_request hrequests hs, hc, htask, ← ofString_lines, List.map_map]
  simp only [hexamples, examples, hv]
  rfl

/-- What the report of a run tells: its exit code, and what it printed. -/
structure Truthful (refusal : Settings → Option String) (around : Surroundings)
    (a : ClientArguments) (r : Report) : Prop where
  wrong_iff : r.code = 2 ↔ TurnedAway around a
  failed_iff : r.code = 1 ↔ ∃ s, Settings.resolve around.files a.config a.server = .ok s ∧
    Falters refusal around a.config s a.task
  success_iff : r.code = 0 ↔ ¬ TurnedAway around a ∧
    ∀ s, Settings.resolve around.files a.config a.server = .ok s →
      ¬ Falters refusal around a.config s a.task
  quiet : r.code ≠ 0 → r.stdout = []
  evaluates : ∀ file s c text, a.task = .eval file →
    Settings.resolve around.files a.config a.server = .ok s → build refusal s = .ok c →
    Provides around file text → Evaluates refusal around a s c text r
  lists : ∀ s c entries, a.task = .examples →
    Settings.resolve around.files a.config a.server = .ok s → build refusal s = .ok c →
    c.fetchExamples around.net = .ok entries →
    r = .said ((entries.map Entry.name).flatMap fun name => Bytes.ofString name ++ [0x0A])

end CommandLine.ClientRun
end Scratchpad
