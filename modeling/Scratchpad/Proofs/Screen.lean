import Scratchpad.Proofs.Text
import Scratchpad.Screen

/-!
# Laws of sinks and screens

A device is willing in some states if there it accepts some of every write, flushes without failure,
and stays in these states. On a willing device a text is written in full however the device cuts it,
and drawing a frame appends exactly its text, or nothing where it is the remembered frame.
-/

namespace Scratchpad

/-- In the states `I` every write is accepted at least in part and every flush succeeds, and the
device stays in these states. -/
structure Device.Willing {σ : Type} (d : Device σ) (I : σ → Prop) : Prop where
  write : ∀ s b rest, I s → ∃ s' n, d.write s (b :: rest) = (s', .bytes (n + 1)) ∧ I s'
  flush : ∀ s, I s → ∃ s', d.flush s = (s', none) ∧ I s'

/-- A tank without a bound takes everything. -/
theorem Tank.device_willing : Tank.device.Willing (· = .unlimited) where
  write := by
    rintro _ b rest rfl
    exact ⟨.unlimited, rest.length, rfl, rfl⟩
  flush := by
    rintro _ rfl
    exact ⟨.unlimited, rfl, rfl⟩

namespace Sink
variable {σ : Type} {d : Device σ} {I : σ → Prop}

theorem writeAll_of_willing (hd : d.Willing I) (s : Sink σ) (bytes : Bytes) (hs : I s.device) :
    ∃ s', s.writeAll d bytes = (s', none) ∧ s'.output = s.output ++ bytes ∧ I s'.device := by
  fun_induction writeAll d s bytes with
  | case1 s => exact ⟨s, rfl, by simp, hs⟩
  | case2 s b rest device error hw =>
    obtain ⟨s', n, hb, _⟩ := hd.write s.device b rest hs
    rw [hb] at hw
    cases hw
  | case3 s b rest device hw =>
    obtain ⟨s', n, hb, _⟩ := hd.write s.device b rest hs
    rw [hb] at hw
    cases hw
  | case4 s b rest device n hw ih =>
    obtain ⟨s', n', hb, hs'⟩ := hd.write s.device b rest hs
    rw [hw] at hb
    cases hb
    obtain ⟨t, ht, hout, hI⟩ := ih hs'
    refine ⟨t, ht, hout.trans ?_, hI⟩
    simp [output, List.take_append_drop]

theorem writePieces_of_willing (hd : d.Willing I) (s : Sink σ) (pieces : List Bytes)
    (hs : I s.device) :
    ∃ s', s.writePieces d pieces = (s', none) ∧ s'.output = s.output ++ pieces.flatten ∧
      I s'.device := by
  induction pieces generalizing s with
  | nil => exact ⟨s, rfl, by simp, hs⟩
  | cons p rest ih =>
    obtain ⟨s', hw, hout, hI⟩ := writeAll_of_willing hd s p hs
    obtain ⟨t, ht, htout, htI⟩ := ih s' hI
    refine ⟨t, ?_, ?_, htI⟩
    · rw [writePieces, hw]
      exact ht
    · rw [htout, hout, List.flatten_cons, List.append_assoc]

theorem flush_of_willing (hd : d.Willing I) (s : Sink σ) (hs : I s.device) :
    ∃ s', s.flush d = (s', none) ∧ s'.output = s.output ∧ I s'.device := by
  obtain ⟨device, hf, hI⟩ := hd.flush s.device hs
  exact ⟨{ s with device }, by rw [flush, hf], rfl, hI⟩

end Sink

/-- The bytes of a frame's text. -/
def Frame.bytes (f : Frame) : Bytes :=
  Bytes.ofString f.toText

namespace Screen
variable {σ : Type} {d : Device σ} {I : σ → Prop}

theorem draw_of_remembered {s : Screen σ} {f : Frame} (h : s.last = some f) :
    s.draw d f = (s, none) := by
  rw [draw, if_pos h]

theorem draw_of_willing (hd : d.Willing I) {s : Screen σ} {f : Frame} (hs : I s.sink.device)
    (h : s.last ≠ some f) :
    (s.draw d f).1.output = s.output ++ f.bytes ∧ (s.draw d f).1.last = some f ∧
      I (s.draw d f).1.sink.device := by
  obtain ⟨t, ht, hout, hI⟩ :=
    Sink.writePieces_of_willing hd s.sink (f.pieces.map Bytes.ofString) hs
  obtain ⟨u, hu, huout, huI⟩ := Sink.flush_of_willing hd t hI
  rw [draw, if_neg h, ht]
  dsimp only
  rw [hu]
  refine ⟨?_, rfl, huI⟩
  calc
    u.output = s.sink.output ++ (f.pieces.map Bytes.ofString).flatten := huout.trans hout
    _ = s.output ++ f.bytes := by rw [Frame.bytes, Frame.toText, Bytes.ofString_join]; rfl

end Screen
end Scratchpad
