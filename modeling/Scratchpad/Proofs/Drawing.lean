import Mathlib.Data.List.Destutter
import Mathlib.Data.List.Induction
import Scratchpad.Proofs.History
import Scratchpad.Proofs.Screen
import Scratchpad.Session

/-!
# Drawing on a sink that may fail

A watched device behaves like the device itself and keeps the calls it was given, with its answers.
A draw of a frame that is not remembered offers the text of the frame until a call fails, and warns
of that call. The remembered frame is that of the last draw to complete since the last `invalidate`,
and on a device that never fails the output is the text of the frames without their repetitions.

A draw that fails leaves behind what the device took of it. A draw of the remembered frame does not
see this: it adds nothing, so the output need not end with that frame.
-/

namespace Scratchpad

/-! ## Calls -/

namespace Device

/-- A call of a device together with its answer. -/
inductive Call
  | write (offered : Bytes) (answer : Accepted)
  | flush (error : Option String)
deriving DecidableEq, Repr

namespace Call

/-- What the device took of what it was offered. -/
def taken : Call → Bytes
  | .write offered (.bytes n) => offered.take n
  | .write _ (.failed _) => []
  | .flush _ => []

/-- The error of a write that failed; one that takes nothing has failed. -/
def writeError? : Call → Option String
  | .write _ (.bytes 0) => some "failed to write whole buffer"
  | .write _ (.bytes (_ + 1)) => none
  | .write _ (.failed error) => some error
  | .flush _ => none

/-- The error of a call that failed. -/
def error? : Call → Option String
  | .flush error => error
  | c => c.writeError?

def isWrite : Call → Bool
  | .write .. => true
  | .flush _ => false

end Call

variable {σ : Type}

/-- The device with a record of its calls. -/
def watched (d : Device σ) : Device (σ × List Call) where
  write s offered :=
    let (device, answer) := d.write s.1 offered
    ((device, s.2 ++ [.write offered answer]), answer)
  flush s :=
    let (device, error) := d.flush s.1
    ((device, s.2 ++ [.flush error]), error)

/-- The calls offer the bytes, piece by piece, until one fails with `error` or all are taken. -/
structure Offers (calls : List Call) (bytes : Bytes) (error : Option String) : Prop where
  taken : calls.flatMap Call.taken <+: bytes
  whole : error = none → calls.flatMap Call.taken = bytes
  errors : calls.filterMap Call.writeError? = error.toList
  writes : ∀ c ∈ calls, c.isWrite = true

namespace Offers
variable {calls calls' : List Call} {bytes bytes' : Bytes} {error : Option String}

theorem nil : Offers [] [] none :=
  ⟨List.prefix_refl _, fun _ => rfl, rfl, by simp⟩

theorem append (h : Offers calls bytes none) (h' : Offers calls' bytes' error) :
    Offers (calls ++ calls') (bytes ++ bytes') error where
  taken := by
    rw [List.flatMap_append, h.whole rfl]
    exact (List.prefix_append_right_inj _).mpr h'.taken
  whole he := by rw [List.flatMap_append, h.whole rfl, h'.whole he]
  errors := by rw [List.filterMap_append, h.errors, h'.errors]; rfl
  writes c hc := (List.mem_append.mp hc).elim (h.writes c) (h'.writes c)

/-- After a failure the rest is not offered. -/
theorem stop {error : String} (h : Offers calls bytes (some error)) (bytes' : Bytes) :
    Offers calls (bytes ++ bytes') (some error) where
  taken := h.taken.trans (List.prefix_append _ _)
  whole he := by cases he
  errors := h.errors
  writes := h.writes

theorem failed {call : Call} {error : String} (hw : call.isWrite = true)
    (he : call.writeError? = some error) (ht : call.taken = []) (bytes : Bytes) :
    Offers [call] bytes (some error) where
  taken := by simp [ht]
  whole h := by cases h
  errors := by simp [he]
  writes := by simpa using hw

theorem accepted (b : UInt8) (rest : Bytes) (n : Nat) :
    Offers [.write (b :: rest) (.bytes (n + 1))] (b :: rest.take n) none where
  taken := by simp [Call.taken]
  whole _ := by simp [Call.taken]
  errors := rfl
  writes := by simp [Call.isWrite]

theorem filterMap_error? (h : Offers calls bytes error) :
    calls.filterMap Call.error? = error.toList := by
  rw [← h.errors]
  apply List.filterMap_congr
  intro c hc
  cases c with
  | write offered answer => rfl
  | flush error => cases h.writes _ hc

theorem flush_notMem (h : Offers calls bytes error) (flushed : Option String) :
    .flush flushed ∉ calls := by
  intro hc
  cases h.writes _ hc

end Offers
end Device

namespace Sink
open Device
variable {σ : Type} (d : Device σ)

/-- The sink with a record of the calls of its device so far. -/
def watched (s : Sink σ) (calls : List Call) : Sink (σ × List Call) :=
  ⟨(s.device, calls), s.chunks⟩

@[simp] theorem watched_output (s : Sink σ) (calls : List Call) :
    (s.watched calls).output = s.output := rfl

theorem writeAll_watched (s : Sink σ) (bytes : Bytes) (calls : List Call) :
    ∃ more, (s.watched calls).writeAll d.watched bytes =
        ((s.writeAll d bytes).1.watched (calls ++ more), (s.writeAll d bytes).2) ∧
      (s.writeAll d bytes).1.output = s.output ++ more.flatMap Call.taken ∧
      Offers more bytes (s.writeAll d bytes).2 := by
  fun_induction writeAll d s bytes generalizing calls with
  | case1 s => exact ⟨[], by simp [writeAll], by simp, .nil⟩
  | case2 s b rest device error hw =>
    refine ⟨[.write (b :: rest) (.failed error)], ?_, by simp [output, Call.taken],
      .failed rfl rfl rfl _⟩
    simp [writeAll, watched, Device.watched, hw]
  | case3 s b rest device hw =>
    refine ⟨[.write (b :: rest) (.bytes 0)], ?_, by simp [output, Call.taken],
      .failed rfl rfl rfl _⟩
    simp [writeAll, watched, Device.watched, hw]
  | case4 s b rest device n hw ih =>
    obtain ⟨more, hmore, hout, hoffers⟩ :=
      ih (calls ++ [.write (b :: rest) (.bytes (n + 1))])
    refine ⟨[.write (b :: rest) (.bytes (n + 1))] ++ more, ?_, ?_, ?_⟩
    · rw [← List.append_assoc, ← hmore, writeAll]
      simp [watched, Device.watched, hw]
    · rw [hout, List.flatMap_append, ← List.append_assoc]
      simp [output, Call.taken]
    · have hb : (b :: rest.take n) ++ rest.drop n = b :: rest := by
        rw [List.cons_append, List.take_append_drop]
      have h := (Offers.accepted b rest n).append hoffers
      rwa [hb] at h

theorem writePieces_watched (s : Sink σ) (pieces : List Bytes) (calls : List Call) :
    ∃ more, (s.watched calls).writePieces d.watched pieces =
        ((s.writePieces d pieces).1.watched (calls ++ more), (s.writePieces d pieces).2) ∧
      (s.writePieces d pieces).1.output = s.output ++ more.flatMap Call.taken ∧
      Offers more pieces.flatten (s.writePieces d pieces).2 := by
  induction pieces generalizing s calls with
  | nil => exact ⟨[], by simp [writePieces], by simp [writePieces], .nil⟩
  | cons p rest ih =>
    obtain ⟨more, hmore, hout, hoffers⟩ := s.writeAll_watched d p calls
    rw [writePieces, writePieces, hmore, List.flatten_cons]
    generalize s.writeAll d p = written at hout hoffers ⊢
    obtain ⟨s', _ | error⟩ := written
    · obtain ⟨more', hmore', hout', hoffers'⟩ := ih s' (calls ++ more)
      refine ⟨more ++ more', ?_, ?_, hoffers.append hoffers'⟩
      · rw [← List.append_assoc]
        exact hmore'
      · rw [List.flatMap_append, ← List.append_assoc, ← hout]
        exact hout'
    · exact ⟨more, rfl, hout, hoffers.stop rest.flatten⟩

theorem flush_watched (s : Sink σ) (calls : List Call) :
    (s.watched calls).flush d.watched =
      ((s.flush d).1.watched (calls ++ [.flush (s.flush d).2]), (s.flush d).2) := rfl

end Sink

/-! ## One draw -/

namespace Screen
open Device
variable {σ : Type} (d : Device σ)

/-- The screen with a record of the calls of its device from now on. -/
def watched (s : Screen σ) : Screen (σ × List Call) :=
  ⟨s.sink.watched [], s.last⟩

/-- The calls that are made to draw a frame. -/
def calls (s : Screen σ) (f : Frame) : List Call :=
  (s.watched.draw d.watched f).1.sink.device.2

/-- What the device takes of a frame that is drawn. -/
def taken (s : Screen σ) (f : Frame) : Bytes :=
  (s.calls d f).flatMap Call.taken

/-- What is logged of a draw. -/
def report (s : Screen σ) (f : Frame) : List Event :=
  ((s.draw d f).2.map .drawFailed).toList

/-- The draw hands over the whole text of the frame, and flushes it. -/
structure Completes (s : Screen σ) (f : Frame) : Prop where
  whole : s.taken d f = f.bytes
  flushed : .flush none ∈ s.calls d f

section
variable {d} {s : Screen σ} {f : Frame} {sink : Sink σ}

theorem draw_of_unwritten {error : String} (h : s.last ≠ some f)
    (hw : s.sink.writePieces d (f.pieces.map Bytes.ofString) = (sink, some error)) :
    s.draw d f = (⟨sink, s.last⟩, some error) := by
  rw [draw, if_neg h, hw]

theorem draw_of_written {sink' : Sink σ} {error : Option String} (h : s.last ≠ some f)
    (hw : s.sink.writePieces d (f.pieces.map Bytes.ofString) = (sink, none))
    (hf : sink.flush d = (sink', error)) :
    s.draw d f = (⟨sink', if error = none then some f else s.last⟩, error) := by
  rw [draw, if_neg h, hw]
  dsimp only
  rw [hf]
  cases error <;> rfl

end

/-- A draw of a frame that is not remembered makes these calls, which leave the sink so, and ends
with `error`. -/
structure Ended (s : Screen σ) (f : Frame) (sink : Sink σ) (calls : List Call)
    (error : Option String) : Prop where
  result : s.draw d f = (⟨sink, if error = none then some f else s.last⟩, error)
  watched : s.watched.draw d.watched f =
    (⟨sink.watched calls, if error = none then some f else s.last⟩, error)
  output : sink.output = s.output ++ calls.flatMap Call.taken
  beginning : calls.flatMap Call.taken <+: f.bytes
  whole : (∀ c ∈ calls, c.writeError? = none) → calls.flatMap Call.taken = f.bytes
  errors : calls.filterMap Call.error? = error.toList
  completes : calls.flatMap Call.taken = f.bytes ∧ .flush none ∈ calls ↔ error = none

section
variable {d} {s : Screen σ} {f : Frame} {sink : Sink σ} {calls writes : List Call}

theorem Ended.calls_eq {error : Option String} (h : s.Ended d f sink calls error) :
    s.calls d f = calls := by
  rw [Screen.calls, h.watched]
  rfl

theorem ended_of_unwritten {error : String}
    (hr : s.draw d f = (⟨sink, s.last⟩, some error))
    (hw : s.watched.draw d.watched f = (⟨sink.watched writes, s.last⟩, some error))
    (hout : sink.output = s.output ++ writes.flatMap Call.taken)
    (hoffers : Offers writes f.bytes (some error)) : s.Ended d f sink writes (some error) where
  result := hr
  watched := hw
  output := hout
  beginning := hoffers.taken
  whole hnone := by
    have herrors := hoffers.errors
    rw [List.filterMap_eq_nil_iff.mpr hnone] at herrors
    cases herrors
  errors := hoffers.filterMap_error?
  completes := iff_of_false (fun hc => hoffers.flush_notMem none hc.2) (Option.some_ne_none error)

theorem ended_of_written {error : Option String}
    (hr : s.draw d f = (⟨sink, if error = none then some f else s.last⟩, error))
    (hw : s.watched.draw d.watched f =
      (⟨sink.watched (writes ++ [.flush error]), if error = none then some f else s.last⟩, error))
    (hout : sink.output = s.output ++ writes.flatMap Call.taken)
    (hoffers : Offers writes f.bytes none) :
    s.Ended d f sink (writes ++ [.flush error]) error := by
  have htaken : writes.flatMap Call.taken = f.bytes := hoffers.whole rfl
  have hall : (writes ++ [Call.flush error]).flatMap Call.taken = f.bytes := by
    rw [List.flatMap_append, htaken]
    exact List.append_nil _
  refine ⟨hr, hw, ?_, hall ▸ List.prefix_refl _, fun _ => hall, ?_, ?_⟩
  · rw [hall, ← htaken]
    exact hout
  · rw [List.filterMap_append, hoffers.filterMap_error?]
    cases error <;> rfl
  · rw [and_iff_right hall, List.mem_append, List.mem_singleton,
      or_iff_right (hoffers.flush_notMem none), Call.flush.injEq, eq_comm]

end

variable (s : Screen σ) (f : Frame)

theorem ended (h : s.last ≠ some f) : ∃ sink calls error, s.Ended d f sink calls error := by
  have hbytes : (f.pieces.map Bytes.ofString).flatten = f.bytes := by
    rw [Frame.bytes, Frame.toText, Bytes.ofString_join]
  obtain ⟨writes, hwatched, hout, hoffers⟩ :=
    s.sink.writePieces_watched d (f.pieces.map Bytes.ofString) []
  rw [hbytes] at hoffers
  rw [List.nil_append] at hwatched
  rcases hw : s.sink.writePieces d (f.pieces.map Bytes.ofString) with ⟨sink, _ | error⟩
  · rw [hw] at hwatched hout hoffers
    have hflush := sink.flush_watched d writes
    exact ⟨_, _, _, ended_of_written (draw_of_written h hw rfl)
      (draw_of_written (s := s.watched) h hwatched hflush) hout hoffers⟩
  · rw [hw] at hwatched hout hoffers
    exact ⟨_, _, _, ended_of_unwritten (draw_of_unwritten h hw)
      (draw_of_unwritten (s := s.watched) h hwatched) hout hoffers⟩

/-- What is true of a draw of a frame that is not remembered. -/
structure Attempt : Prop where
  output : (s.draw d f).1.output = s.output ++ s.taken d f
  beginning : s.taken d f <+: f.bytes
  whole : (∀ c ∈ s.calls d f, c.writeError? = none) → s.taken d f = f.bytes
  /-- A failed call makes the one warning, and the remembered frame stays. -/
  failed : ∀ c ∈ s.calls d f, ∀ error, c.error? = some error →
    s.report d f = [.drawFailed error] ∧ (Event.drawFailed error).level = .warn ∧
      (s.draw d f).1.last = s.last
  passed : (∀ c ∈ s.calls d f, c.error? = none) →
    s.report d f = [] ∧ (s.draw d f).1.last = some f
  completes : s.Completes d f ↔ s.report d f = []

theorem attempt (h : s.last ≠ some f) : s.Attempt d f := by
  obtain ⟨sink, calls, error, hended⟩ := s.ended d f h
  have hcalls := hended.calls_eq
  have hreport : s.report d f = (error.map .drawFailed).toList := by
    rw [report, hended.result]
  constructor
  · rw [hended.result, taken, hcalls]
    exact hended.output
  · rw [taken, hcalls]
    exact hended.beginning
  · rw [taken, hcalls]
    exact hended.whole
  · intro c hc e he
    have hmem : e ∈ calls.filterMap Call.error? :=
      List.mem_filterMap.mpr ⟨c, hcalls ▸ hc, he⟩
    rw [hended.errors, Option.mem_toList] at hmem
    subst hmem
    exact ⟨hreport, rfl, by rw [hended.result]; rfl⟩
  · intro hnone
    have herrors := hended.errors
    rw [List.filterMap_eq_nil_iff.mpr (hcalls ▸ hnone)] at herrors
    obtain rfl : error = none := by simpa using herrors.symm
    exact ⟨hreport, by rw [hended.result]; rfl⟩
  · have hiff := hended.completes
    rw [← hcalls] at hiff
    have hnil : s.report d f = [] ↔ error = none := by rw [hreport]; simp
    rw [hnil, ← hiff]
    exact ⟨fun hc => ⟨hc.whole, hc.flushed⟩, fun hc => ⟨hc.1, hc.2⟩⟩

/-- A draw of the remembered frame makes no call at all. -/
theorem skip (h : s.last = some f) :
    s.draw d f = (s, none) ∧ s.calls d f = [] ∧ s.report d f = [] := by
  have hd := draw_of_remembered (d := d) h
  have hw : s.watched.draw d.watched f = (s.watched, none) := draw_of_remembered h
  refine ⟨hd, by rw [calls, hw]; rfl, by rw [report, hd]; rfl⟩

/-- Watching a screen changes nothing of what it does. -/
theorem draw_watched : s.watched.draw d.watched f =
    (⟨(s.draw d f).1.sink.watched (s.calls d f), (s.draw d f).1.last⟩, (s.draw d f).2) := by
  by_cases h : s.last = some f
  · obtain ⟨hd, hc, _⟩ := s.skip d f h
    have hw : s.watched.draw d.watched f = (s.watched, none) := draw_of_remembered h
    rw [hd, hc, hw]
    rfl
  · obtain ⟨sink, calls, error, hended⟩ := s.ended d f h
    rw [hended.calls_eq, hended.watched, hended.result]

section
variable {d s f}

theorem Attempt.last_of_unreported (h : s.Attempt d f) (hr : s.report d f = []) :
    (s.draw d f).1.last = some f := by
  refine (h.passed fun c hc => Option.eq_none_iff_forall_ne_some.mpr ?_).2
  intro error he
  have hw := (h.failed c hc error he).1
  rw [hr] at hw
  cases hw

theorem Attempt.last_of_reported (h : s.Attempt d f) (hr : s.report d f ≠ []) :
    (s.draw d f).1.last = s.last := by
  have hc : ¬ ∀ c ∈ s.calls d f, c.error? = none := fun hc => hr (h.passed hc).1
  push Not at hc
  obtain ⟨c, hc, he⟩ := hc
  obtain ⟨error, he⟩ := Option.ne_none_iff_exists'.mp he
  exact (h.failed c hc error he).2.2

theorem Completes.ne_last (h : s.Completes d f) : s.last ≠ some f := by
  intro hl
  have hf := h.flushed
  rw [(s.skip d f hl).2.1] at hf
  cases hf

theorem Completes.last (h : s.Completes d f) : (s.draw d f).1.last = some f :=
  have ha := s.attempt d f h.ne_last
  ha.last_of_unreported (ha.completes.mp h)

theorem last_of_not_completes (h : ¬ s.Completes d f) : (s.draw d f).1.last = s.last := by
  by_cases hl : s.last = some f
  · rw [(s.skip d f hl).1]
  · have ha := s.attempt d f hl
    exact ha.last_of_reported fun hr => h (ha.completes.mpr hr)

theorem last_of_reported (h : s.report d f ≠ []) :
    s.last ≠ some f ∧ (s.draw d f).1.last = s.last := by
  have hl : s.last ≠ some f := fun hl => h (s.skip d f hl).2.2
  exact ⟨hl, (s.attempt d f hl).last_of_reported h⟩

end

end Screen

/-- What a session logs when it redraws. -/
theorem Session.redraw_log {σ : Type} (d : Device σ) (s : Session σ) :
    (s.redraw d).2.log = s.screen.report d (.ofPad s.pad) := rfl

/-! ## Histories -/

namespace Screen
open Device
variable {σ : Type} (d : Device σ)

/-- What a screen is told to do. -/
inductive Act
  | draw (f : Frame)
  | invalidate
deriving DecidableEq, Repr

def act (s : Screen σ) : Act → Screen σ
  | .draw f => (s.draw d f).1
  | .invalidate => s.invalidate

/-- The screen after some acts on a device in this state. -/
def after (device : σ) (acts : List Act) : Screen σ :=
  acts.foldl (act d) (.blank device)

theorem after_snoc (device : σ) (acts : List Act) (a : Act) :
    after d device (acts ++ [a]) = (after d device acts).act d a := by
  rw [after, List.foldl_append]
  rfl

/-- The act after `before` is a draw that completes. -/
def Completing (device : σ) (before : List Act) : Act → Prop
  | .draw f => (after d device before).Completes d f
  | .invalidate => False

/-- The last draw among `acts` to complete is that of `f`, which comes after `before`, and there is
no `invalidate` among the acts `since`. -/
structure LastComplete (device : σ) (acts before : List Act) (f : Frame) (since : List Act) :
    Prop where
  last : LastOf (Completing d device) acts before (.draw f) since
  valid : .invalidate ∉ since

namespace LastComplete
variable {d} {device : σ} {acts before since : List Act} {f : Frame} {a : Act}

theorem newest (h : (after d device acts).Completes d f) :
    LastComplete d device (acts ++ [.draw f]) acts f [] :=
  ⟨.newest h, List.not_mem_nil⟩

theorem snoc {g : Frame} (h : LastComplete d device acts before f since)
    (hg : ¬ (after d device acts).Completes d g) :
    LastComplete d device (acts ++ [.draw g]) before f (since ++ [.draw g]) :=
  ⟨h.last.snoc hg, by simpa using h.valid⟩

theorem snoc_cases (h : LastComplete d device (acts ++ [a]) before f since) :
    (before = acts ∧ a = .draw f ∧ since = []) ∨
      ∃ since' g, since = since' ++ [a] ∧ a = .draw g ∧ LastComplete d device acts before f since' ∧
        ¬ (after d device acts).Completes d g := by
  rcases h.last.snoc_cases with ⟨hb, ha, hs⟩ | ⟨since', rfl, hlast, hk⟩
  · exact .inl ⟨hb, ha.symm, hs⟩
  · have hv := h.valid
    rw [List.mem_append, not_or] at hv
    cases a with
    | draw g => exact .inr ⟨since', g, rfl, rfl, ⟨hlast, hv.1⟩, hk⟩
    | invalidate => exact absurd List.mem_cons_self hv.2

end LastComplete

section
variable {d} {device : σ} {acts : List Act} {f : Frame}

/-- The remembered frame is that of the last draw to complete since the last `invalidate`. -/
theorem last_after_iff : (after d device acts).last = some f ↔
    ∃ before since, LastComplete d device acts before f since := by
  induction acts using List.reverseRecOn with
  | nil =>
    refine iff_of_false (Option.some_ne_none f).symm ?_
    rintro ⟨before, since, h⟩
    exact LastOf.not_nil h.last
  | append_singleton acts a ih =>
    rw [after_snoc]
    cases a with
    | invalidate =>
      refine iff_of_false (Option.some_ne_none f).symm ?_
      rintro ⟨before, since, h⟩
      rcases h.snoc_cases with ⟨_, ha, _⟩ | ⟨_, _, _, ha, _⟩ <;> cases ha
    | draw g =>
      by_cases hg : (after d device acts).Completes d g
      · constructor
        · intro hl
          obtain rfl : g = f := Option.some.inj (hg.last.symm.trans hl)
          exact ⟨acts, [], .newest hg⟩
        · rintro ⟨before, since, h⟩
          rcases h.snoc_cases with ⟨_, ha, _⟩ | ⟨_, g', _, ha, _, hn⟩
          · cases ha
            exact hg.last
          · cases ha
            exact absurd hg hn
      · -- skipped or failed, the draw changes neither side
        change ((after d device acts).draw d g).1.last = some f ↔ _
        rw [last_of_not_completes hg, ih]
        constructor
        · rintro ⟨before, since, h⟩
          exact ⟨before, since ++ [.draw g], h.snoc hg⟩
        · rintro ⟨before, since, h⟩
          rcases h.snoc_cases with ⟨rfl, ha, _⟩ | ⟨since', _, _, _, h', _⟩
          · cases ha
            exact absurd h.last.kind hg
          · exact ⟨before, since', h'⟩

theorem act_last_ne {s : Screen σ} {a : Act} (h : s.last ≠ some f) (ha : a ≠ .draw f) :
    (s.act d a).last ≠ some f := by
  cases a with
  | invalidate => exact (Option.some_ne_none f).symm
  | draw g =>
    change (s.draw d g).1.last ≠ some f
    by_cases hg : s.Completes d g
    · rw [hg.last]
      intro hf
      exact ha (congrArg Act.draw (Option.some.inj hf))
    · rwa [last_of_not_completes hg]

theorem foldl_act_last_ne {s : Screen σ} {rest : List Act} (h : s.last ≠ some f)
    (hr : .draw f ∉ rest) : (rest.foldl (act d) s).last ≠ some f := by
  induction rest generalizing s with
  | nil => exact h
  | cons a rest ih =>
    rw [List.mem_cons, not_or] at hr
    exact ih (act_last_ne h (Ne.symm hr.1)) hr.2

/-- A frame whose draw failed is not remembered until it is drawn again. -/
theorem after_last_ne_of_reported {rest : List Act} (h : (after d device acts).report d f ≠ [])
    (hr : .draw f ∉ rest) : (after d device (acts ++ .draw f :: rest)).last ≠ some f := by
  obtain ⟨hl, hd⟩ := last_of_reported h
  rw [after, List.foldl_append, List.foldl_cons]
  refine foldl_act_last_ne ?_ hr
  change ((after d device acts).draw d f).1.last ≠ some f
  rwa [hd]

end

/-- No draw among `acts` that comes later than the act after `before` is reported to fail. -/
def Quiet (device : σ) (before acts : List Act) : Prop :=
  ∀ later g, before.length < later.length → later ++ [.draw g] <+: acts →
    (after d device later).report d g = []

section
variable {d} {device : σ} {acts before since : List Act} {f : Frame}

theorem output_of_completes {s : Screen σ} (h : s.Completes d f) :
    (s.draw d f).1.output = s.output ++ f.bytes := by
  rw [(s.attempt d f h.ne_last).output, h.whole]

/-- What the device took after the last draw to complete are parts of frames whose draws failed. -/
theorem output_of_lastComplete (h : LastComplete d device acts before f since) :
    ∃ stray, (after d device acts).output = (after d device before).output ++ f.bytes ++ stray ∧
      (Quiet d device before acts → stray = []) := by
  induction acts using List.reverseRecOn generalizing since with
  | nil => exact absurd h.last LastOf.not_nil
  | append_singleton acts a ih =>
    rw [after_snoc]
    rcases h.snoc_cases with ⟨rfl, rfl, rfl⟩ | ⟨since', g, rfl, rfl, h', hg⟩
    · refine ⟨[], ?_, fun _ => rfl⟩
      rw [List.append_nil]
      exact output_of_completes h.last.kind
    · obtain ⟨stray, hout, hquiet⟩ := ih h'
      have hlen : before.length < acts.length := by
        rw [h'.last.occurs, List.length_append, List.length_cons]
        omega
      have hquiet' (hq : Quiet d device before (acts ++ [.draw g])) : stray = [] :=
        hquiet fun later e hl hp => hq later e hl (hp.trans (List.prefix_append _ _))
      change ∃ stray, ((after d device acts).draw d g).1.output = _ ∧ _
      by_cases hl : (after d device acts).last = some g
      · rw [((after d device acts).skip d g hl).1]
        exact ⟨stray, hout, hquiet'⟩
      · have ha := (after d device acts).attempt d g hl
        -- a draw of another frame that does not complete is reported, so it is not quiet since
        refine ⟨stray ++ (after d device acts).taken d g, ?_, fun hq => ?_⟩
        · rw [ha.output, hout, List.append_assoc _ stray]
        · exact absurd (ha.completes.mpr (hq acts g hlen (List.prefix_refl _))) hg

/-- After a draw that reports no failure the output ends with the frame, if no draw has failed since
the remembered frame was drawn. If one has, a draw of that frame adds nothing to what the device
took of the others. -/
theorem output_of_unreported (h : (after d device acts).report d f = []) :
    let out := ((after d device acts).draw d f).1.output
    ((∀ before since, LastComplete d device acts before f since → Quiet d device before acts) →
      f.bytes <:+ out) ∧
    ∀ before since, LastComplete d device acts before f since → ∃ stray,
      out = (after d device before).output ++ f.bytes ++ stray ∧
        (f.bytes <:+ out ↔ f.bytes <:+ f.bytes ++ stray) := by
  intro out
  by_cases hl : (after d device acts).last = some f
  · have hout : out = (after d device acts).output :=
      congrArg (·.1.output) ((after d device acts).skip d f hl).1
    constructor
    · intro hq
      obtain ⟨before, since, hc⟩ := last_after_iff.mp hl
      obtain ⟨stray, hafter, hstray⟩ := output_of_lastComplete hc
      rw [hout, hafter, hstray (hq before since hc), List.append_nil]
      exact List.suffix_append _ _
    · intro before since hc
      obtain ⟨stray, hafter, -⟩ := output_of_lastComplete hc
      refine ⟨stray, hout.trans hafter, ?_⟩
      rw [hout, hafter, List.append_assoc]
      constructor
      · intro hs
        refine List.suffix_of_suffix_length_le hs (List.suffix_append _ _) ?_
        rw [List.length_append]
        exact Nat.le_add_right _ _
      · intro hs
        exact hs.trans (List.suffix_append _ _)
  · have hc := ((after d device acts).attempt d f hl).completes.mpr h
    constructor
    · intro _
      exact ⟨_, (output_of_completes hc).symm⟩
    · intro before since hlast
      exact absurd (last_after_iff.mpr ⟨before, since, hlast⟩) hl

/-- A tank that is full stays so, and the frame it took last is at the end of the output. -/
theorem output_of_unreported_full :
    let f : Frame := ⟨[], "1", false, none⟩
    let s := after Tank.device ⟨some 77, false⟩ [.draw f]
    s.sink.device = ⟨some 0, false⟩ ∧ s.report Tank.device f = [] ∧
      f.bytes <:+ (s.draw Tank.device f).1.output := by
  intro f s
  have hr : s.report Tank.device f = [] := by decide +kernel
  refine ⟨by decide +kernel, hr, (output_of_unreported hr).1 ?_⟩
  intro before since _ later g hlt hp
  have hle := hp.length_le
  simp only [List.length_append, List.length_singleton] at hle
  omega

/-- When part of another frame has come after it, skipping the remembered frame leaves that part at
the end of the output. -/
theorem not_output_of_unreported :
    let f : Frame := ⟨[], "1", false, none⟩
    let s := after Tank.device ⟨some 93, false⟩ [.draw f, .draw ⟨[], "2", false, none⟩]
    s.report Tank.device f = [] ∧ ¬ f.bytes <:+ (s.draw Tank.device f).1.output := by
  decide +kernel

end

/-! ## A device that never fails -/

/-- No call fails while these frames are drawn. -/
def Spared (s : Screen σ) : List Frame → Prop
  | [] => True
  | f :: rest => (∀ c ∈ s.calls d f, c.error? = none) ∧ Spared (s.draw d f).1 rest

section
variable {d} {s : Screen σ} {f g : Frame} {frames : List Frame}

theorem spared_of_willing {I : σ → Prop} (hd : d.Willing I) (hs : I s.sink.device) :
    Spared d s frames := by
  induction frames generalizing s with
  | nil => trivial
  | cons f rest ih =>
    by_cases hl : s.last = some f
    · obtain ⟨hdraw, hcalls, -⟩ := s.skip d f hl
      rw [Spared, hdraw, hcalls]
      exact ⟨List.forall_mem_nil _, ih hs⟩
    · obtain ⟨-, hlast, hI⟩ := draw_of_willing hd hs hl
      refine ⟨fun c hc => Option.eq_none_iff_forall_ne_some.mpr ?_, ih hI⟩
      intro error he
      have hkept := ((s.attempt d f hl).failed c hc error he).2.2
      exact hl (hkept.symm.trans hlast)

theorem draw_of_spared (hs : ∀ c ∈ s.calls d f, c.error? = none) (h : s.last ≠ some f) :
    (s.draw d f).1.last = some f ∧ (s.draw d f).1.output = s.output ++ f.bytes := by
  have ha := s.attempt d f h
  obtain ⟨hreport, hlast⟩ := ha.passed hs
  exact ⟨hlast, output_of_completes (ha.completes.mpr hreport)⟩

theorem output_of_spared {before : Bytes} (hs : Spared d s frames) (h : s.last = some g)
    (ho : s.output = before ++ g.bytes) : ((frames.map Act.draw).foldl (act d) s).output =
      before ++ (frames.destutter' (· ≠ ·) g).flatMap Frame.bytes := by
  induction frames generalizing s g before with
  | nil => simpa using ho
  | cons f rest ih =>
    obtain ⟨hcalls, hrest⟩ := hs
    rw [List.map_cons, List.foldl_cons, List.destutter'_cons]
    by_cases hf : g = f
    · subst hf
      rw [if_neg (not_not_intro rfl)]
      have hdraw := (s.skip d g h).1
      rw [hdraw] at hrest
      rw [act, hdraw]
      exact ih hrest h ho
    · rw [if_pos hf, List.flatMap_cons, ← List.append_assoc, ← ho]
      have hl : s.last ≠ some f := fun he => hf (Option.some.inj (h.symm.trans he))
      obtain ⟨hlast, hout⟩ := draw_of_spared hcalls hl
      exact ih hrest hlast hout

theorem after_output_of_spared {device : σ} (hs : Spared d (.blank device) frames) :
    (after d device (frames.map .draw)).output =
      (frames.destutter (· ≠ ·)).flatMap Frame.bytes := by
  cases frames with
  | nil => rfl
  | cons f rest =>
    obtain ⟨hcalls, hrest⟩ := hs
    obtain ⟨hlast, hout⟩ := draw_of_spared hcalls (Option.some_ne_none f).symm
    exact output_of_spared hrest hlast hout

end

/-! ## The whole behaviour -/

/-- How the screen stands after some acts on a device in this state, and what a draw does then. -/
structure Behaved (device : σ) (acts : List Act) : Prop where
  watched : ∀ f, (after d device acts).watched.draw d.watched f =
    (⟨((after d device acts).draw d f).1.sink.watched ((after d device acts).calls d f),
      ((after d device acts).draw d f).1.last⟩, ((after d device acts).draw d f).2)
  remembered : ∀ f, (after d device acts).last = some f ↔
    ∃ before since, LastComplete d device acts before f since
  skipped : ∀ f, (after d device acts).last = some f →
    (after d device acts).draw d f = (after d device acts, none) ∧
      (after d device acts).calls d f = [] ∧ (after d device acts).report d f = []
  attempted : ∀ f, (after d device acts).last ≠ some f → (after d device acts).Attempt d f
  again : ∀ f rest, (after d device acts).report d f ≠ [] → .draw f ∉ rest →
    (after d device (acts ++ .draw f :: rest)).Attempt d f
  reliable : ∀ frames, acts = frames.map .draw → Spared d (.blank device) frames →
    (after d device acts).output = (frames.destutter (· ≠ ·)).flatMap Frame.bytes

theorem behaved (device : σ) (acts : List Act) : Behaved d device acts where
  watched f := (after d device acts).draw_watched d f
  remembered _ := last_after_iff
  skipped f := (after d device acts).skip d f
  attempted f := (after d device acts).attempt d f
  again f _ h hr := attempt d _ f (after_last_ne_of_reported h hr)
  reliable := by
    rintro frames rfl hs
    exact after_output_of_spared hs

/-- A frame that did not fit is tried again although another one was drawn since, and a tank without
a bound gets each frame once in a row. -/
theorem behaved_of_tanks :
    let f : Frame := ⟨[], "1", false, none⟩
    let g : Frame := ⟨[], "2", false, none⟩
    (after Tank.device ⟨some 93, false⟩ [.draw f]).report Tank.device g ≠ [] ∧
      (after Tank.device ⟨some 93, false⟩ [.draw f, .draw g, .draw f]).Attempt Tank.device g ∧
      (after Tank.device .unlimited [.draw f, .draw f, .draw g]).output = f.bytes ++ g.bytes := by
  intro f g
  have hr : (after Tank.device ⟨some 93, false⟩ [.draw f]).report Tank.device g ≠ [] := by
    decide +kernel
  refine ⟨hr, (behaved Tank.device _ _).again g [.draw f] hr (by decide), ?_⟩
  have hs : Spared Tank.device (.blank .unlimited) [f, f, g] :=
    spared_of_willing Tank.device_willing rfl
  have hd : [f, f, g].destutter (· ≠ ·) = [f, g] := by decide
  have hout := (behaved Tank.device .unlimited _).reliable [f, f, g] rfl hs
  rwa [hd, List.flatMap_cons, List.flatMap_singleton] at hout

end Screen
end Scratchpad
