import Scratchpad.Proofs.Capture

/-!
# The loop of a capture

A stream brings chunks, with interruptions anywhere between them, until it ends or fails. The loop
that captures it keeps one invariant from its first attempt to its last: what is kept and what is
dropped make up all that has come, and what is kept is within the limit. The same loop over a buffer
of fixed size, where every index is checked, never leaves its bounds and gives the same.
-/

namespace Scratchpad

namespace Process

/-- What a stream brings: its chunks, each with a byte at least and no more than one attempt brings,
and why it fails if it does not come to its end. Nothing after a failure matters. -/
inductive Brings : List Attempt → List Bytes → Option String → Prop
  | ends : Brings [] [] none
  | fails (reason : String) (rest : List Attempt) :
    Brings (.failed reason :: rest) [] (some reason)
  | chunk {bytes : Bytes} {rest : List Attempt} {chunks : List Bytes} {failure : Option String} :
    0 < bytes.length → bytes.length ≤ chunkSize → Brings rest chunks failure →
    Brings (.chunk bytes :: rest) (bytes :: chunks) failure
  | interrupted {rest : List Attempt} {chunks : List Bytes} {failure : Option String} :
    Brings rest chunks failure → Brings (.interrupted :: rest) chunks failure

variable {stream seen rest : List Attempt} {chunks : List Bytes} {failure : Option String}

theorem Brings.delivered_eq (h : Brings stream chunks failure) :
    delivered stream = failure.elim (.ok chunks.flatten) .error := by
  induction h with
  | ends => rfl
  | fails reason rest => rfl
  | @chunk bytes rest chunks failure _ _ _ ih =>
    rw [delivered, ih]
    cases failure <;> rfl
  | interrupted _ ih => exact ih

/-- What a stream brings before a point that it comes to, and what it brings from there on. -/
theorem Brings.split (h : Brings (seen ++ rest) chunks failure)
    (hseen : ∀ reason, .failed reason ∉ seen) :
    ∃ before after, chunks = before ++ after ∧ Brings seen before none ∧
      Brings rest after failure := by
  induction seen generalizing chunks with
  | nil => exact ⟨[], chunks, rfl, .ends, h⟩
  | cons a seen ih =>
    have hmore : ∀ reason, Attempt.failed reason ∉ seen := fun reason hr =>
      hseen reason (List.mem_cons_of_mem a hr)
    cases h with
    | fails reason => exact absurd List.mem_cons_self (hseen reason)
    | chunk hpos hle h =>
      obtain ⟨before, after, rfl, hbefore, hafter⟩ := ih h hmore
      exact ⟨_ :: before, after, rfl, .chunk hpos hle hbefore, hafter⟩
    | interrupted h =>
      obtain ⟨before, after, rfl, hbefore, hafter⟩ := ih h hmore
      exact ⟨before, after, rfl, .interrupted hbefore, hafter⟩

end Process

namespace Capture

open Process (Attempt Brings chunkSize)

variable {limit : Nat} {c : Capture} {buffer bytes : Bytes} {stream seen rest : List Attempt}
  {chunks : List Bytes} {failure : Option String}

/-! ## The invariant -/

/-- What holds of a capture when some bytes have come. -/
structure Holds (limit : Nat) (come : Bytes) (c : Capture) : Prop where
  whole : c.kept.length + c.dropped = come.length
  within : c.kept.length ≤ limit

theorem holds_empty (limit : Nat) : Holds limit [] empty :=
  ⟨rfl, Nat.zero_le limit⟩

/-- A chunk keeps the invariant. -/
theorem Holds.add {come : Bytes} (h : Holds limit come c) (bytes : Bytes) :
    Holds limit (come ++ bytes) (c.add limit bytes) := by
  obtain ⟨hwhole, hwithin⟩ := h
  constructor
  · simp only [Capture.add, List.length_append, List.length_take]
    omega
  · simp only [Capture.add, List.length_append, List.length_take]
    omega

theorem Holds.resume {come : Bytes} {c' : Capture} (h : Holds limit come c)
    (hb : Brings stream chunks none) (hc : resume limit c stream = .ok c') :
    Holds limit (come ++ chunks.flatten) c' := by
  induction stream generalizing c come chunks with
  | nil =>
    cases hb
    cases hc
    rwa [List.flatten_nil, List.append_nil]
  | cons a rest ih =>
    cases hb with
    | @chunk bytes _ chunks _ _ _ hb =>
      rw [List.flatten_cons, ← List.append_assoc]
      exact ih (h.add bytes) hb hc
    | interrupted hb => exact ih h hb hc

theorem resume_append (limit : Nat) (c : Capture) (seen rest : List Attempt) :
    resume limit c (seen ++ rest) =
      (resume limit c seen).bind fun c => resume limit c rest := by
  induction seen generalizing c with
  | nil => rfl
  | cons a seen ih =>
    cases a with
    | chunk bytes => exact ih (c.add limit bytes)
    | interrupted => exact ih c
    | failed reason => rfl

/-! ## The result -/

theorem read_of_brings (h : Brings stream chunks failure) :
    read limit stream = failure.elim (.ok (ofBytes limit chunks.flatten)) .error := by
  rw [read_eq, h.delivered_eq]
  cases failure <;> rfl

/-- The loop at a point that it comes to: it holds what has come by then, and goes on with that. -/
theorem exists_read_of_append (h : Brings (seen ++ rest) chunks failure)
    (hseen : ∀ reason, .failed reason ∉ seen) :
    ∃ before after c, chunks = before ++ after ∧ Brings seen before none ∧
      read limit seen = .ok c ∧ Holds limit before.flatten c ∧
      read limit (seen ++ rest) = resume limit c rest := by
  obtain ⟨before, after, rfl, hbefore, -⟩ := h.split hseen
  have hread : read limit seen = .ok (ofBytes limit before.flatten) := read_of_brings hbefore
  have hholds : Holds limit before.flatten (ofBytes limit before.flatten) :=
    (holds_empty limit).resume hbefore hread
  have hgoes : read limit (seen ++ rest) = resume limit (ofBytes limit before.flatten) rest := by
    have happend := resume_append limit empty seen rest
    change read limit (seen ++ rest) = (read limit seen).bind _ at happend
    rw [happend, hread]
    rfl
  exact ⟨before, after, _, rfl, hbefore, hread, hholds, hgoes⟩

/-! ## Through a buffer -/

/-- The first bytes of a buffer, if it has as many. -/
def slice? (buffer : Bytes) (n : Nat) : Option Bytes :=
  if n ≤ buffer.length then some (buffer.take n) else none

/-- The difference of two numbers, if it is not below zero. -/
def minus? (m n : Nat) : Option Nat :=
  if n ≤ m then some (m - n) else none

/-- Some bytes go to the beginning of a buffer, which has its size for ever; the old bytes after them
stay. -/
def overwrite (buffer bytes : Bytes) : Bytes :=
  bytes.take buffer.length ++ buffer.drop bytes.length

/-- Takes the first `n` bytes of a buffer: as many of them as there is room for are kept. -/
def addFrom? (limit : Nat) (c : Capture) (buffer : Bytes) (n : Nat) : Option Capture := do
  let room := min (limit - c.kept.length) n
  let kept ← slice? buffer room
  let dropped ← minus? n room
  return ⟨c.kept ++ kept, c.dropped + dropped⟩

/-- The loop over a buffer. An attempt that brings nothing is the end of the stream; there is no
result at all where an index is out of range. -/
def resumeThrough? (limit : Nat) (c : Capture) (buffer : Bytes) :
    List Attempt → Option (Except String Capture)
  | [] => some (.ok c)
  | .chunk [] :: _ => some (.ok c)
  | .chunk (b :: bytes) :: rest => do
    let buffer := overwrite buffer (b :: bytes)
    resumeThrough? limit (← addFrom? limit c buffer (bytes.length + 1)) buffer rest
  | .interrupted :: rest => resumeThrough? limit c buffer rest
  | .failed reason :: _ => some (.error reason)

/-- Reads a stream through a buffer that holds zeros at first. -/
def readThrough? (limit : Nat) (stream : List Attempt) : Option (Except String Capture) :=
  resumeThrough? limit empty (List.replicate chunkSize 0) stream

theorem length_overwrite (buffer bytes : Bytes) :
    (overwrite buffer bytes).length = buffer.length := by
  rw [overwrite, List.length_append, List.length_take, List.length_drop]
  omega

/-- The bytes that are kept are those of the chunk, and not what the buffer held before. -/
theorem addFrom?_overwrite (limit : Nat) (c : Capture) (h : bytes.length ≤ buffer.length) :
    addFrom? limit c (overwrite buffer bytes) bytes.length = some (c.add limit bytes) := by
  have hroom : min (limit - c.kept.length) bytes.length ≤ bytes.length := Nat.min_le_right _ _
  have hslice : slice? (overwrite buffer bytes) (min (limit - c.kept.length) bytes.length) =
      some (bytes.take (min (limit - c.kept.length) bytes.length)) := by
    rw [slice?, if_pos (by rw [length_overwrite]; exact hroom.trans h), overwrite,
      List.take_of_length_le h, List.take_append_of_le_length hroom]
  have hminus : minus? bytes.length (min (limit - c.kept.length) bytes.length) =
      some (bytes.length - min (limit - c.kept.length) bytes.length) :=
    if_pos hroom
  rw [addFrom?, hslice, hminus]
  rfl

/-- The loop over a buffer is the loop without one, as long as no chunk is larger than the buffer. -/
theorem resumeThrough?_eq (hb : Brings stream chunks failure) (h : buffer.length = chunkSize) :
    resumeThrough? limit c buffer stream = some (resume limit c stream) := by
  induction hb generalizing c buffer with
  | ends => rfl
  | fails reason rest => rfl
  | @chunk bytes rest _ _ hpos hle _ ih =>
    obtain _ | ⟨b, bytes⟩ := bytes
    · exact absurd hpos (lt_irrefl 0)
    -- the buffer keeps its size, so that the next chunk fits as well
    have hadd := addFrom?_overwrite limit c (hle.trans h.ge)
    rw [List.length_cons] at hadd
    rw [resumeThrough?, hadd]
    exact ih ((length_overwrite _ _).trans h)
  | interrupted _ ih => exact ih h

/-! ## Streams -/

/-- How a stream is read that brings some chunks until it ends or fails. -/
structure Splits (limit : Nat) (stream : List Attempt) (chunks : List Bytes)
    (failure : Option String) : Prop where
  ended : failure = none → read limit stream = .ok
    ⟨chunks.flatten.take (min limit chunks.flatten.length),
      chunks.flatten.length - min limit chunks.flatten.length⟩
  failed : ∀ reason, failure = some reason → read limit stream = .error reason
  /-- Where the bytes are cut into chunks does not matter, nor what interrupts them. -/
  alike : ∀ stream' chunks', Brings stream' chunks' failure → chunks'.flatten = chunks.flatten →
    read limit stream' = read limit stream
  /-- The invariant at every point that the loop comes to, from which it goes on with `c`. -/
  throughout : ∀ seen rest, stream = seen ++ rest → (∀ reason, .failed reason ∉ seen) →
    ∃ before after c, chunks = before ++ after ∧ Brings seen before none ∧
      read limit seen = .ok c ∧ Holds limit before.flatten c ∧
      read limit stream = resume limit c rest
  inRange : readThrough? limit stream = some (read limit stream)

/-- A stream is split after as many bytes as the limit allows, or after all of them; the others are
counted. If it fails, so does the reading. No index is ever out of range. -/
theorem read_splits (limit : Nat) (h : Brings stream chunks failure) :
    Splits limit stream chunks failure where
  ended hnone := by
    subst hnone
    have hdropped : chunks.flatten.length - limit =
        chunks.flatten.length - min limit chunks.flatten.length := by omega
    rw [read_of_brings h, Option.elim_none, ofBytes, hdropped, List.take_eq_take_min]
  failed reason hsome := by
    subst hsome
    exact read_of_brings h
  alike stream' chunks' h' heq := by
    rw [read_of_brings h, read_of_brings h', heq]
  throughout seen rest heq hseen := by
    subst heq
    exact exists_read_of_append h hseen
  inRange := resumeThrough?_eq h (List.length_replicate)

/-- The limit is inside the second chunk. The bytes may come in one chunk as well; and after the same
chunks the stream may fail. -/
theorem read_splits_inside_chunk :
    let chunks : List Bytes := [[1, 2, 3], [4, 5, 6]]
    let attempts : List Attempt :=
      [.interrupted, .chunk [1, 2, 3], .interrupted, .chunk [4, 5, 6], .interrupted]
    Brings attempts chunks none ∧ Brings (attempts ++ [.failed "e"]) chunks (some "e") ∧
      read 4 attempts = .ok ⟨[1, 2, 3, 4], 2⟩ ∧
      readThrough? 4 attempts = some (.ok ⟨[1, 2, 3, 4], 2⟩) ∧
      read 4 [.chunk [1, 2, 3, 4, 5, 6]] = .ok ⟨[1, 2, 3, 4], 2⟩ ∧
      read 4 (attempts ++ [.failed "e"]) = .error "e" := by
  intro chunks attempts
  have hended : Brings attempts chunks none :=
    .interrupted (.chunk (by decide) (by decide) (.interrupted
      (.chunk (by decide) (by decide) (.interrupted .ends))))
  have hfailed : Brings (attempts ++ [.failed "e"]) chunks (some "e") :=
    .interrupted (.chunk (by decide) (by decide) (.interrupted
      (.chunk (by decide) (by decide) (.interrupted (.fails "e" [])))))
  have hone : Brings [.chunk [1, 2, 3, 4, 5, 6]] [[1, 2, 3, 4, 5, 6]] none :=
    .chunk (by decide) (by decide) .ends
  have hsplits := read_splits 4 hended
  have hread : read 4 attempts = .ok ⟨[1, 2, 3, 4], 2⟩ := hsplits.ended rfl
  refine ⟨hended, hfailed, hread, ?_, ?_, (read_splits 4 hfailed).failed "e" rfl⟩
  · rw [hsplits.inRange, hread]
  · rw [hsplits.alike _ _ hone rfl, hread]

end Capture
end Scratchpad
