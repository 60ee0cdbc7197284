import Scratchpad.Dialogue
import Scratchpad.Proofs.Hosting
import Scratchpad.Proofs.Json.Documents
import Scratchpad.Proofs.Session

/-!
# Failed requests

What a request comes to is decided by what is received: there is a value only if the response is a
success and the whole of its body can be read, and every other answer is a failure of one kind. A
failure is reported once and no more: what the user sees stays, but for the mark that an evaluation
is awaited.
-/

namespace Scratchpad

/-! ## Whole bodies -/

theorem mapM_eq_some_iff {α β : Type} {f : α → Option β} {l : List α} {l' : List β} :
    l.mapM f = some l' ↔ List.Forall₂ (fun a b => f a = some b) l l' := by
  induction l generalizing l' with
  | nil => simp [eq_comm]
  | cons a rest ih =>
    cases h : f a with
    | none => simp [List.mapM_cons, h, List.forall₂_cons_left_iff]
    | some b =>
      simp only [List.mapM_cons, h, List.forall₂_cons_left_iff, ← ih]
      cases rest.mapM f <;> simp [eq_comm]

/-- The bytes are one document and nothing else. -/
def Json.Document.Fills (d : Document) (body : Bytes) : Prop :=
  Token.scan (Text.Utf8.scan body) = some d.tokens

/-- The body is one value, and nothing else. -/
def Json.Fills (v : Json) (body : Bytes) : Prop :=
  ∃ d : Document, d.Fills body ∧ ofDocument? depthLimit d = some v

/-- The body is an array, and nothing else, and its items are the entries, all of them. -/
def Entry.ListFills (entries : List Entry) (body : Bytes) : Prop :=
  ∃ items, (Json.Document.array items).Fills body ∧
    List.Forall₂ (fun d e => ofDocument? d = some e) items entries

theorem Json.ofBytes?_eq_some_iff {body : Bytes} {v : Json} :
    ofBytes? body = some v ↔ v.Fills body := by
  rw [ofBytes?]
  constructor
  · intro h
    obtain ⟨d, hd, hv⟩ := Option.bind_eq_some_iff.mp h
    exact ⟨d, Document.ofBytes?_eq_some_iff.mp hd, hv⟩
  · rintro ⟨d, hd, hv⟩
    exact Option.bind_eq_some_iff.mpr ⟨d, Document.ofBytes?_eq_some_iff.mpr hd, hv⟩

theorem Entry.listOfBytes?_eq_some_iff {body : Bytes} {entries : List Entry} :
    listOfBytes? body = some entries ↔ ListFills entries body := by
  rw [listOfBytes?]
  constructor
  · intro h
    obtain ⟨d, hd, he⟩ := Option.bind_eq_some_iff.mp h
    cases d with
    | array items =>
      exact ⟨items, Json.Document.ofBytes?_eq_some_iff.mp hd, mapM_eq_some_iff.mp he⟩
    | _ => cases he
  · rintro ⟨items, hd, he⟩
    exact Option.bind_eq_some_iff.mpr
      ⟨_, Json.Document.ofBytes?_eq_some_iff.mpr hd, mapM_eq_some_iff.mpr he⟩

/-! ## Outcomes -/

namespace Client
variable {α : Type} {answer : Except String Http.Reception}

/-- Which answer makes which outcome. A body counts only in a success, and then the whole of it. -/
structure Classified (Fills : α → Bytes → Prop) (answer : Except String Http.Reception)
    (outcome : Outcome α) : Prop where
  ok : ∀ a, outcome = .ok a ↔ ∃ status body, answer = .ok ⟨status, .ok body⟩ ∧
    (200 ≤ status ∧ status < 300) ∧ Fills a body
  status : ∀ code, outcome = .error (.status code) ↔
    ∃ body, answer = .ok ⟨code, body⟩ ∧ ¬ (200 ≤ code ∧ code < 300)
  decode : (∃ detail, outcome = .error (.decode detail)) ↔
    ∃ status body, answer = .ok ⟨status, .ok body⟩ ∧ (200 ≤ status ∧ status < 300) ∧
      ∀ a, ¬ Fills a body
  transport : ∀ detail, outcome = .error (.transport detail) ↔ answer = .error detail ∨
    ∃ status, answer = .ok ⟨status, .error detail⟩ ∧ (200 ≤ status ∧ status < 300)

theorem isSuccess_iff {status : Nat} :
    Http.isSuccess status = true ↔ 200 ≤ status ∧ status < 300 := by
  simp [Http.isSuccess]

theorem classified_outcomeOf {read : Bytes → Option α} {Fills : α → Bytes → Prop}
    (hread : ∀ body a, read body = some a ↔ Fills a body) (answer : Except String Http.Reception) :
    Classified Fills answer (outcomeOf read answer) := by
  rcases answer with detail | ⟨status, body⟩
  · constructor <;> simp [outcomeOf, eq_comm]
  cases hs : Http.isSuccess status with
  | false =>
    have hno : ¬ (200 ≤ status ∧ status < 300) := by
      rw [← isSuccess_iff, hs]
      exact Bool.false_ne_true
    rw [outcomeOf_of_not_success hs]
    constructor <;> simp <;> grind
  | true =>
    have hyes : 200 ≤ status ∧ status < 300 := isSuccess_iff.mp hs
    cases body with
    | error detail =>
      have hout : outcomeOf read (.ok ⟨status, .error detail⟩) = .error (.transport detail) := by
        simp only [outcomeOf, hs, if_true]
      rw [hout]
      constructor <;> simp <;> grind
    | ok body =>
      cases hr : read body with
      | some a =>
        rw [outcomeOf_of_success hs hr]
        have ha : Fills a body := (hread body a).mp hr
        constructor <;> simp <;> grind
      | none =>
        have hout : outcomeOf read (.ok ⟨status, .ok body⟩) =
            .error (.decode "unexpected content") := by
          simp only [outcomeOf, hs, if_true, hr]
        have hnone : ∀ a, ¬ Fills a body := fun a ha => by
          rw [(hread body a).mpr ha] at hr
          cases hr
        rw [hout]
        constructor <;> simp <;> grind

end Client

/-! ## What becomes of a failure -/

namespace Event

def isDrawFailed : Event → Bool
  | .drawFailed _ => true
  | _ => false

theorem isDrawFailed_ofNote (n : Note) : (ofNote n).isDrawFailed = false := by
  cases n <;> rfl

theorem isDrawFailed_ofRequest (r : Request) : (ofRequest r).isDrawFailed = false := by
  cases r <;> rfl

end Event

theorem Catalog.phase_eq_loading_iff {c : Catalog} : c.phase = .loading ↔ c = .loading := by
  cases c <;> simp [phase]

/-- What was logged, but for draws that failed. -/
def Trace.news (t : Trace) : List Event :=
  t.log.filter (!·.isDrawFailed)

/-- Nothing has changed that the user sees, except whether an evaluation is awaited. -/
structure Pad.Unharmed (p p' : Pad) : Prop where
  text : p'.editor.text = p.editor.text
  result : p'.editor.result = p.editor.result
  items : p'.catalog.items = p.catalog.items
  selected : p'.catalog.selected = p.catalog.selected
  frame : Frame.ofPad p' = { Frame.ofPad p with pending := p'.editor.isPending }

theorem Pad.unharmed_of {p p' : Pad} (ht : p'.editor.text = p.editor.text)
    (hr : p'.editor.result = p.editor.result) (hi : p'.catalog.items = p.catalog.items)
    (hs : p'.catalog.selected = p.catalog.selected) : p.Unharmed p' :=
  ⟨ht, hr, hi, hs, by simp only [Frame.ofPad, ht, hr, hi, hs]⟩

namespace Session
variable {σ : Type} (d : Device σ) (s : Session σ)

theorem redraw_news : (s.redraw d).2.news = [] := by
  unfold redraw Trace.news
  cases h : (s.screen.draw d (.ofPad s.pad)).2 with
  | none => simp [h]
  | some error => simp [h, Event.isDrawFailed]

theorem dispatch_news (m : Message) : (s.dispatch d m).2.news =
    ((s.pad.update m).2.note.map Event.ofNote).toList ++
      (s.pad.update m).2.requests.map Event.ofRequest := by
  have hnote : ((s.pad.update m).2.note.map Event.ofNote).toList.filter (!·.isDrawFailed) =
      ((s.pad.update m).2.note.map Event.ofNote).toList := by
    cases (s.pad.update m).2.note <;> simp [Event.isDrawFailed_ofNote]
  have hrequests : ((s.pad.update m).2.requests.map Event.ofRequest).filter (!·.isDrawFailed) =
      (s.pad.update m).2.requests.map Event.ofRequest := by
    simp [Event.isDrawFailed_ofRequest]
  have hdrawn : ∀ s' : Session σ, (s'.redraw d).2.log.filter (!·.isDrawFailed) = [] :=
    redraw_news d
  unfold dispatch
  cases h : (s.pad.update m).2.changed <;>
    simp only [h, Trace.news, if_true, if_false, Bool.false_eq_true, Trace.append_log,
      List.filter_append, hnote, hrequests, hdrawn, List.append_nil]

/-- One event is logged, and no request is made. -/
structure Tells (trace : Trace) (e : Event) : Prop where
  news : trace.news = [e]
  requests : trace.requests = []

/-- The failure of an evaluation takes its ticket out of those in flight and is reported. -/
theorem apply_evalFailed (t : Ticket) (f : Failure) :
    (s.apply d (.message (.evalFinished t (.error f)))).1.pad =
      { s.pad with
        editor := { s.pad.editor with inFlight := s.pad.editor.inFlight.filter (· ≠ t) } } ∧
      Tells (s.apply d (.message (.evalFinished t (.error f)))).2 (.evalFailed t f) := by
  refine ⟨s.apply_pad d _, ?_, ?_⟩
  · exact s.dispatch_news d _
  · exact s.dispatch_requests d _

/-- The failure of the fetch that is awaited ends the load and is reported. -/
theorem apply_catalogFailed (h : s.pad.catalog.phase = .loading) (f : Failure) :
    (s.apply d (.message (.catalogLoaded (.error f)))).1.pad =
      { s.pad with catalog := .failed } ∧
      Tells (s.apply d (.message (.catalogLoaded (.error f)))).2 (.catalogFailed f) := by
  have hc := Catalog.phase_eq_loading_iff.mp h
  have hu : s.pad.update (.catalogLoaded (.error f)) =
      ({ s.pad with catalog := .failed }, .noted true (.catalogFailed f)) := by
    simp only [Pad.update, hc, Catalog.finishLoad]
  refine ⟨?_, ?_, ?_⟩
  · exact (s.dispatch_pad d _).trans (congrArg Prod.fst hu)
  · exact (s.dispatch_news d _).trans (by rw [hu]; rfl)
  · exact (s.dispatch_requests d _).trans (by rw [hu]; rfl)

/-- Any other response of the catalog is ignored, and reported as that. -/
theorem apply_lateCatalog (h : s.pad.catalog.phase ≠ .loading) (outcome : Outcome (List Entry)) :
    s.apply d (.message (.catalogLoaded outcome)) = (s, .logging .lateCatalog) := by
  have hi : s.pad.catalog.finishLoad outcome = (s.pad.catalog, .ignored) := by
    rcases hc : s.pad.catalog with _ | _ | ⟨items, selected⟩ | _ <;>
      simp_all [Catalog.phase, Catalog.finishLoad]
  have hu : s.pad.update (.catalogLoaded outcome) =
      (s.pad, .noted false .catalogAlreadySettled) := by
    simp only [Pad.update, hi]
  change s.dispatch d (.catalogLoaded outcome) = _
  unfold dispatch
  simp only [hu]
  rfl

end Session

/-! ## Failed requests -/

namespace Dialogue
variable {σ : Type}

/-- Of the answer to a request, whatever it is, comes what it should; and if that is a failure, then
the completion of the request is harmless and told as it is, wherever the session stands. -/
theorem failure_told (g : Dialogue) (d : Device σ) (s : Session σ) (t : Ticket) (text : String) :
    Client.Classified Json.Fills (g.net (g.client.evalRequest text))
      (g.client.evaluate g.net text) ∧
    Client.Classified Entry.ListFills (g.net g.client.examplesRequest)
      (g.client.fetchExamples g.net) ∧
    (∀ f, g.client.evaluate g.net text = .error f →
      let after := s.apply d (.message (g.completion (.evaluate t text)))
      s.pad.Unharmed after.1.pad ∧ Session.Tells after.2 (.evalFailed t f) ∧
        after.1.pad = { s.pad with
          editor := { s.pad.editor with inFlight := s.pad.editor.inFlight.filter (· ≠ t) } }) ∧
    ∀ f, g.client.fetchExamples g.net = .error f →
      let after := s.apply d (.message (g.completion .fetchCatalog))
      s.pad.Unharmed after.1.pad ∧
        if s.pad.catalog.phase = .loading then
          Session.Tells after.2 (.catalogFailed f) ∧ after.1.pad = { s.pad with catalog := .failed }
        else after = (s, .logging .lateCatalog) := by
  refine ⟨Client.classified_outcomeOf (fun _ _ => Json.ofBytes?_eq_some_iff) _,
    Client.classified_outcomeOf (fun _ _ => Entry.listOfBytes?_eq_some_iff) _, ?_, ?_⟩
  · intro f hf after
    have hafter : after = s.apply d (.message (.evalFinished t (.error f))) := by
      simp only [after, completion, hf]
    obtain ⟨hpad, htells⟩ := s.apply_evalFailed d t f
    rw [← hafter] at hpad htells
    exact ⟨Pad.unharmed_of (by rw [hpad]) (by rw [hpad]) (by rw [hpad]) (by rw [hpad]), htells, hpad⟩
  · intro f hf after
    have hafter : after = s.apply d (.message (.catalogLoaded (.error f))) := by
      simp only [after, completion, hf]
    split
    · next hp =>
      obtain ⟨hpad, htells⟩ := s.apply_catalogFailed d hp f
      rw [← hafter] at hpad htells
      have hc := Catalog.phase_eq_loading_iff.mp hp
      exact ⟨Pad.unharmed_of (by rw [hpad]) (by rw [hpad]) (by rw [hpad, hc]; rfl)
        (by rw [hpad, hc]; rfl), htells, hpad⟩
    · next hp =>
      have hlate := hafter.trans (s.apply_lateCatalog d hp (.error f))
      rw [hlate]
      exact ⟨Pad.unharmed_of rfl rfl rfl rfl, rfl⟩

/-- An error page that is a value, and a catalog whose second entry is none. -/
theorem failure_told_of_half_catalog :
    let net : Http.Network := fun r =>
      if r.method = .post then .ok ⟨404, .ok (Bytes.ofString "[1]")⟩
      else .ok ⟨200, .ok (Bytes.ofString "[[\"id\",\"x\"],\x7b\"name\":\"k\"\x7d]")⟩
    let g : Dialogue := ⟨⟨.forServer "http://h", by decide⟩, net⟩
    let start := (Session.start .lastArrival Tank.unlimited).mount Tank.device
    let s := (start.1.dispatch Tank.device .submit).1
    g.client.evaluate g.net "" = .error (.status 404) ∧
      (∃ detail, g.client.fetchExamples g.net = .error (.decode detail)) ∧
      Session.Tells (s.apply Tank.device (.message (g.completion (.evaluate ⟨1⟩ "")))).2
        (.evalFailed ⟨1⟩ (.status 404)) ∧
      (s.apply Tank.device (.message (g.completion .fetchCatalog))).1.pad.catalog = .failed := by
  intro net g start s
  obtain ⟨heval, hfetch, hevalTold, hfetchTold⟩ :=
    g.failure_told Tank.device s ⟨1⟩ ""
  have hstatus : g.client.evaluate g.net "" = .error (.status 404) :=
    (heval.status 404).mpr ⟨_, rfl, by decide⟩
  have hdecode : g.client.fetchExamples g.net = .error (.decode "unexpected content") := by
    rfl
  have hloading : s.pad.catalog.phase = .loading := by rfl
  have hcatalog := (hfetchTold _ hdecode).2
  rw [if_pos hloading] at hcatalog
  exact ⟨hstatus, ⟨_, hdecode⟩, (hevalTold _ hstatus).2.1, by rw [hcatalog.2]⟩

end Dialogue
end Scratchpad
