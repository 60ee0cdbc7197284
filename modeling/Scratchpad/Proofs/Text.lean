import Mathlib.Data.List.Basic
import Mathlib.Data.List.Induction
import Mathlib.Data.List.TakeWhile
import Scratchpad.Text.Character
import Scratchpad.Text.Utf8

/-!
# Texts, their bytes, their ends and their digits

Scanning the encoding of a text gives back its characters, all of them whole, and only the bytes of a
text are read as that text. Texts stand in the order of their bytes: of two different characters the
later one has more bytes and begins with a higher one, or the first bytes that differ say which of
them is the later one.

A written natural number is one digit or begins with another digit than zero, so no reader takes it
for a number with zeros in front.
-/

namespace Scratchpad

namespace Text.Utf8

theorem encode_cons (c : Char) (cs : List Char) :
    encode (c :: cs) = String.utf8EncodeChar c ++ encode cs :=
  List.flatMap_cons

theorem encode_append (cs cs' : List Char) : encode (cs ++ cs') = encode cs ++ encode cs' :=
  List.flatMap_append

theorem encode_concat (cs : List Char) (c : Char) :
    encode (cs ++ [c]) = encode cs ++ String.utf8EncodeChar c := by
  rw [encode_append, encode_cons]
  exact congrArg _ (List.append_nil _)

/-! ## One character -/

theorem lead_one {n : Nat} (h : n < 0x80) : lead (UInt8.ofNat n) = .whole (Char.ofNat n) := by
  have hn : (UInt8.ofNat n).toNat = n := UInt8.toNat_ofNat_of_lt (by rw [UInt8.size]; omega)
  simp only [lead, hn, h, if_true]

theorem lead_two {k : Nat} (hlow : 2 ≤ k) (h : k < 0x20) :
    lead (UInt8.ofNat (k + 0xC0)) = .opens ⟨1, 0x80, 0xBF, k⟩ := by
  revert hlow
  decide +revert

theorem lead_three {k : Nat} (h : k < 16) : lead (UInt8.ofNat (k + 0xE0)) =
    .opens ⟨2, if k = 0 then 0xA0 else 0x80, if k = 13 then 0x9F else 0xBF, k⟩ := by
  decide +revert

theorem lead_four {k : Nat} (h : k < 5) : lead (UInt8.ofNat (k + 0xF0)) =
    .opens ⟨3, if k = 0 then 0x90 else 0x80, if k = 4 then 0x8F else 0xBF, k⟩ := by
  decide +revert

namespace Scanner
variable {units : List (Option Char)}

theorem step_tail {more low high code k : Nat} (hk : k < 64) (hlow : low ≤ k + 0x80)
    (hhigh : k + 0x80 ≤ high) :
    step ⟨units, some ⟨more, low, high, code⟩⟩ (UInt8.ofNat (k + 0x80)) =
      if more = 1 then ⟨some (Char.ofNat (code * 64 + k)) :: units, none⟩
      else ⟨units, some ⟨more - 1, 0x80, 0xBF, code * 64 + k⟩⟩ := by
  have hb : (UInt8.ofNat (k + 0x80)).toNat = k + 0x80 :=
    UInt8.toNat_ofNat_of_lt (by rw [UInt8.size]; omega)
  have hm : (k + 0x80) % 64 = k := by omega
  simp only [step, hb, hlow, hhigh, and_self, if_true, hm]

theorem step_whole {b : UInt8} {c : Char} (h : lead b = .whole c) :
    step ⟨units, none⟩ b = ⟨some c :: units, none⟩ := by
  simp only [step, begin, h]

theorem step_opens {b : UInt8} {p : Pending} (h : lead b = .opens p) :
    step ⟨units, none⟩ b = ⟨units, some p⟩ := by
  simp only [step, begin, h]

/-- The bytes of a character are read as that character. The bounds on the second byte hold as a
character is no surrogate and is not encoded in more bytes than it needs. -/
theorem foldl_encodeChar (c : Char) :
    (String.utf8EncodeChar c).foldl step ⟨units, none⟩ = ⟨some c :: units, none⟩ := by
  have hc : Char.ofNat c.val.toNat = c := Char.ofNat_toNat c
  have hvalid : c.val.toNat < 0xD800 ∨ 0xDFFF < c.val.toNat ∧ c.val.toNat < 0x110000 := c.valid
  unfold String.utf8EncodeChar
  generalize c.val.toNat = v at hc hvalid
  dsimp only
  split
  · rw [List.foldl_cons, List.foldl_nil, step_whole (lead_one (by omega)), hc]
  split
  · have hv : v / 64 % 0x20 * 64 + v % 0x40 = v := by omega
    rw [List.foldl_cons, step_opens (lead_two (by omega) (by omega)), List.foldl_cons,
      step_tail (by omega) (by omega) (by omega), if_pos rfl, hv, hc, List.foldl_nil]
  split
  · have hv : (v / 4096 % 0x10 * 64 + v / 64 % 0x40) * 64 + v % 0x40 = v := by omega
    rw [List.foldl_cons, step_opens (lead_three (by omega)), List.foldl_cons,
      step_tail (by omega) (by split <;> omega) (by split <;> omega), if_neg (by decide),
      List.foldl_cons, step_tail (by omega) (by omega) (by omega), if_pos rfl, hv, hc,
      List.foldl_nil]
  · have hv : ((v / 262144 % 0x08 * 64 + v / 4096 % 0x40) * 64 + v / 64 % 0x40) * 64 +
        v % 0x40 = v := by omega
    rw [List.foldl_cons, step_opens (lead_four (by omega)), List.foldl_cons,
      step_tail (by omega) (by split <;> omega) (by split <;> omega), if_neg (by decide),
      List.foldl_cons, step_tail (by omega) (by omega) (by omega), if_neg (by decide),
      List.foldl_cons, step_tail (by omega) (by omega) (by omega), if_pos rfl, hv, hc,
      List.foldl_nil]

theorem foldl_encode (cs : List Char) : (encode cs).foldl step ⟨units, none⟩ =
    ⟨(cs.map some).reverse ++ units, none⟩ := by
  induction cs generalizing units with
  | nil => rfl
  | cons c cs ih =>
    rw [encode_cons, List.foldl_append, foldl_encodeChar, ih]
    simp

end Scanner

/-! ## Texts -/

theorem scan_encode (cs : List Char) : scan (encode cs) = cs.map some := by
  rw [scan, Scanner.start, Scanner.foldl_encode]
  simp [Scanner.finish]

theorem decode?_encode (cs : List Char) : decode? (encode cs) = some cs := by
  simp [decode?, scan_encode]

/-! ## The bytes of a code -/

section Codes
variable {k x y z : Nat}

theorem toNat_ofNat_of_valid {n : Nat} (h : n.isValidChar) : (Char.ofNat n).val.toNat = n := by
  rw [Char.ofNat, dif_pos h]
  rfl

theorem encodeChar_one (h : k < 0x80) :
    String.utf8EncodeChar (Char.ofNat k) = [UInt8.ofNat k] := by
  have hv : (Char.ofNat k).val.toNat = k := toNat_ofNat_of_valid (.inl (by omega))
  simp only [String.utf8EncodeChar, hv]
  rw [if_pos (by omega)]

theorem encodeChar_two (hlow : 2 ≤ k) (hk : k < 0x20) (hx : x < 64) :
    String.utf8EncodeChar (Char.ofNat (k * 64 + x)) =
      [UInt8.ofNat (k + 0xC0), UInt8.ofNat (x + 0x80)] := by
  have hv : (Char.ofNat (k * 64 + x)).val.toNat = k * 64 + x :=
    toNat_ofNat_of_valid (.inl (by omega))
  simp only [String.utf8EncodeChar, hv]
  rw [if_neg (by omega), if_pos (by omega), show (k * 64 + x) / 64 % 0x20 = k by omega,
    show (k * 64 + x) % 0x40 = x by omega]

theorem encodeChar_three (hk : k < 16) (hx : x < 64) (hy : y < 64) (hlow : k = 0 → 0x20 ≤ x)
    (hhigh : k = 13 → x < 0x20) :
    String.utf8EncodeChar (Char.ofNat ((k * 64 + x) * 64 + y)) =
      [UInt8.ofNat (k + 0xE0), UInt8.ofNat (x + 0x80), UInt8.ofNat (y + 0x80)] := by
  generalize hn : (k * 64 + x) * 64 + y = n
  have hv : (Char.ofNat n).val.toNat = n :=
    toNat_ofNat_of_valid (by rw [Nat.isValidChar]; omega)
  simp only [String.utf8EncodeChar, hv]
  rw [if_neg (by omega), if_neg (by omega), if_pos (by omega), show n / 4096 % 0x10 = k by omega,
    show n / 64 % 0x40 = x by omega, show n % 0x40 = y by omega]

theorem encodeChar_four (hk : k < 5) (hx : x < 64) (hy : y < 64) (hz : z < 64)
    (hlow : k = 0 → 0x10 ≤ x) (hhigh : k = 4 → x < 0x10) :
    String.utf8EncodeChar (Char.ofNat (((k * 64 + x) * 64 + y) * 64 + z)) =
      [UInt8.ofNat (k + 0xF0), UInt8.ofNat (x + 0x80), UInt8.ofNat (y + 0x80),
        UInt8.ofNat (z + 0x80)] := by
  generalize hn : ((k * 64 + x) * 64 + y) * 64 + z = n
  have hv : (Char.ofNat n).val.toNat = n := toNat_ofNat_of_valid (.inr (by omega))
  simp only [String.utf8EncodeChar, hv]
  rw [if_neg (by omega), if_neg (by omega), if_neg (by omega), show n / 262144 % 0x08 = k by omega,
    show n / 4096 % 0x40 = x by omega, show n / 64 % 0x40 = y by omega,
    show n % 0x40 = z by omega]

end Codes

/-! ## Characters under way -/

namespace Pending
variable {p : Pending} {front : Bytes} {b : UInt8}

/-- Six bits for each byte that is owed, of which the first is bounded. -/
structure Owes (p : Pending) (tail : List Nat) : Prop where
  length : tail.length = p.more
  lt : ∀ k ∈ tail, k < 64
  low : ∀ k ∈ tail.head?, p.low ≤ k + 0x80
  high : ∀ k ∈ tail.head?, k + 0x80 ≤ p.high

/-- Some bytes begin a character: it has been read when all that is owed has come. -/
structure Opened (p : Pending) (front : Bytes) : Prop where
  pos : 0 < p.more
  low : 0x80 ≤ p.low
  high : p.high ≤ 0xBF
  bytes : ∀ tail, p.Owes tail →
    String.utf8EncodeChar (Char.ofNat (tail.foldl (fun code k => code * 64 + k) p.code)) =
      front ++ tail.map fun k => UInt8.ofNat (k + 0x80)

theorem Owes.cons {k : Nat} {tail : List Nat} (hk : k < 64) (hlow : p.low ≤ k + 0x80)
    (hhigh : k + 0x80 ≤ p.high) (h : tail.length + 1 = p.more) (hlt : ∀ k ∈ tail, k < 64) :
    p.Owes (k :: tail) where
  length := h
  lt := List.forall_mem_cons.mpr ⟨hk, hlt⟩
  low := by simpa using hlow
  high := by simpa using hhigh

/-- The byte that is owed next has six bits to give. -/
theorem Opened.byte (h : p.Opened front) (hlow : p.low ≤ b.toNat) (hhigh : b.toNat ≤ p.high) :
    b.toNat % 64 + 0x80 = b.toNat := by
  have := h.low
  have := h.high
  omega

theorem Opened.last (h : p.Opened front) (hlow : p.low ≤ b.toNat) (hhigh : b.toNat ≤ p.high)
    (hmore : p.more = 1) :
    String.utf8EncodeChar (Char.ofNat (p.code * 64 + b.toNat % 64)) = front ++ [b] := by
  have hb := h.byte hlow hhigh
  have howes : p.Owes [b.toNat % 64] :=
    .cons (by omega) (by omega) (by omega) hmore.symm (by simp)
  have hbytes := h.bytes _ howes
  rwa [List.map_singleton, hb, UInt8.ofNat_toNat] at hbytes

theorem Opened.next (h : p.Opened front) (hlow : p.low ≤ b.toNat) (hhigh : b.toNat ≤ p.high)
    (hmore : p.more ≠ 1) :
    Opened ⟨p.more - 1, 0x80, 0xBF, p.code * 64 + b.toNat % 64⟩ (front ++ [b]) where
  pos := by
    have := h.pos
    dsimp only
    omega
  low := Nat.le_refl _
  high := Nat.le_refl _
  bytes tail howes := by
    have hb := h.byte hlow hhigh
    have hlength : tail.length + 1 = p.more := by
      rw [howes.length]
      have := h.pos
      dsimp only
      omega
    have hall : p.Owes (b.toNat % 64 :: tail) :=
      .cons (by omega) (by omega) (by omega) hlength howes.lt
    have hbytes := h.bytes _ hall
    rwa [List.map_cons, hb, UInt8.ofNat_toNat, List.append_cons] at hbytes

end Pending

theorem encodeChar_of_lead {b : UInt8} {c : Char} (h : lead b = .whole c) :
    String.utf8EncodeChar c = [b] := by
  by_cases hb : b.toNat < 0x80
  · have hwhole := lead_one hb
    rw [UInt8.ofNat_toNat, h] at hwhole
    cases hwhole
    rw [encodeChar_one hb, UInt8.ofNat_toNat]
  · unfold lead at h
    dsimp only at h
    rw [if_neg hb] at h
    repeat' (first | cases h | split at h)

section Opens
variable {k : Nat}

theorem opened_two (hlow : 2 ≤ k) (hk : k < 0x20) :
    Pending.Opened ⟨1, 0x80, 0xBF, k⟩ [UInt8.ofNat (k + 0xC0)] where
  pos := Nat.one_pos
  low := Nat.le_refl _
  high := Nat.le_refl _
  bytes tail howes := by
    obtain ⟨x, rfl⟩ := List.length_eq_one_iff.mp howes.length
    exact encodeChar_two hlow hk (howes.lt x (by simp))

theorem opened_three (hk : k < 16) :
    Pending.Opened ⟨2, if k = 0 then 0xA0 else 0x80, if k = 13 then 0x9F else 0xBF, k⟩
      [UInt8.ofNat (k + 0xE0)] where
  pos := Nat.two_pos
  low := by dsimp only; split <;> decide
  high := by dsimp only; split <;> decide
  bytes tail howes := by
    obtain ⟨x, y, rfl⟩ := List.length_eq_two.mp howes.length
    have hlow := howes.low x (by simp)
    have hhigh := howes.high x (by simp)
    dsimp only at hlow hhigh
    exact encodeChar_three hk (howes.lt x (by simp)) (howes.lt y (by simp))
      (fun h => by rw [if_pos h] at hlow; omega) (fun h => by rw [if_pos h] at hhigh; omega)

theorem opened_four (hk : k < 5) :
    Pending.Opened ⟨3, if k = 0 then 0x90 else 0x80, if k = 4 then 0x8F else 0xBF, k⟩
      [UInt8.ofNat (k + 0xF0)] where
  pos := Nat.succ_pos _
  low := by dsimp only; split <;> decide
  high := by dsimp only; split <;> decide
  bytes tail howes := by
    obtain ⟨x, y, z, rfl⟩ := List.length_eq_three.mp howes.length
    have hlow := howes.low x (by simp)
    have hhigh := howes.high x (by simp)
    dsimp only at hlow hhigh
    exact encodeChar_four hk (howes.lt x (by simp)) (howes.lt y (by simp)) (howes.lt z (by simp))
      (fun h => by rw [if_pos h] at hlow; omega) (fun h => by rw [if_pos h] at hhigh; omega)

end Opens

theorem bounds_of_lead {b : UInt8} {p : Pending} (h : lead b = .opens p) :
    0xC2 ≤ b.toNat ∧ b.toNat < 0xF5 := by
  unfold lead at h
  grind

theorem opened_of_lead {b : UInt8} {p : Pending} (h : lead b = .opens p) : p.Opened [b] := by
  obtain ⟨hlow, hhigh⟩ := bounds_of_lead h
  have hopened {k d : Nat} {q : Pending} (hk : b.toNat = k + d)
      (hlead : lead (UInt8.ofNat (k + d)) = .opens q) (hq : q.Opened [UInt8.ofNat (k + d)]) :
      p.Opened [b] := by
    rw [← hk, UInt8.ofNat_toNat] at hlead hq
    cases h.symm.trans hlead
    exact hq
  obtain htwo | hge := Nat.lt_or_ge b.toNat 0xE0
  · obtain ⟨k, hk⟩ := Nat.exists_eq_add_of_le' (show 0xC0 ≤ b.toNat by omega)
    exact hopened hk (lead_two (by omega) (by omega)) (opened_two (by omega) (by omega))
  obtain hthree | hge := Nat.lt_or_ge b.toNat 0xF0
  · obtain ⟨k, hk⟩ := Nat.exists_eq_add_of_le' hge
    exact hopened hk (lead_three (by omega)) (opened_three (by omega))
  · obtain ⟨k, hk⟩ := Nat.exists_eq_add_of_le' hge
    exact hopened hk (lead_four (by omega)) (opened_four (by omega))

/-! ## Bytes that are read -/

/-- Some part of what has been read is invalid, or all that has been read are whole characters and
the first bytes of one that is under way. -/
def Scanner.Reads (s : Scanner) (bs : Bytes) : Prop :=
  none ∈ s.units ∨ ∃ cs front, s.units = (cs.map some).reverse ∧ bs = encode cs ++ front ∧
    s.pending.elim (front = []) (·.Opened front)

namespace Scanner
variable {s : Scanner} {bs : Bytes} {units : List (Option Char)}

theorem reads_whole {cs : List Char} (c : Char) (hunits : units = (cs.map some).reverse)
    (hbs : bs = encode cs ++ String.utf8EncodeChar c) : Reads ⟨some c :: units, none⟩ bs := by
  refine .inr ⟨cs ++ [c], [], ?_, ?_, rfl⟩
  · rw [hunits, List.map_append, List.reverse_append]
    rfl
  · rw [encode_concat, hbs, List.append_nil]

/-- A byte where a character begins. -/
theorem reads_begin {cs : List Char} (hunits : units = (cs.map some).reverse)
    (b : UInt8) : (begin units b).Reads (encode cs ++ [b]) := by
  unfold begin
  cases hlead : lead b with
  | whole c => exact reads_whole c hunits (by rw [encodeChar_of_lead hlead])
  | opens p => exact .inr ⟨cs, [b], hunits, rfl, opened_of_lead hlead⟩
  | stray => exact .inl (.head _)

theorem mem_units_begin (h : none ∈ units) (b : UInt8) : none ∈ (begin units b).units := by
  unfold begin
  cases lead b <;> simp [h]

theorem mem_units_step (h : none ∈ s.units) (b : UInt8) : none ∈ (s.step b).units := by
  unfold step
  cases s.pending with
  | none => exact mem_units_begin h b
  | some p =>
    dsimp only
    repeat' split
    · exact .tail _ h
    · exact h
    · exact mem_units_begin (.head _) b

theorem Reads.step (h : s.Reads bs) (b : UInt8) : (s.step b).Reads (bs ++ [b]) := by
  obtain hinvalid | ⟨cs, front, hunits, rfl, hfront⟩ := h
  · exact .inl (mem_units_step hinvalid b)
  unfold Scanner.step
  cases hpending : s.pending with
  | none =>
    rw [hpending] at hfront
    obtain rfl : front = [] := hfront
    rw [List.append_nil]
    exact reads_begin hunits b
  | some p =>
    rw [hpending] at hfront
    have hopened : p.Opened front := hfront
    rw [List.append_assoc]
    dsimp only
    split
    next hb =>
      split
      next hmore => exact reads_whole _ hunits (by rw [hopened.last hb.1 hb.2 hmore])
      next hmore => exact .inr ⟨cs, _, hunits, rfl, hopened.next hb.1 hb.2 hmore⟩
    next => exact .inl (mem_units_begin (.head _) b)

theorem reads_foldl (bs : Bytes) : (bs.foldl Scanner.step start).Reads bs := by
  induction bs using List.reverseRecOn with
  | nil => exact .inr ⟨[], [], rfl, rfl, rfl⟩
  | append_singleton bs b ih =>
    rw [List.foldl_append]
    exact ih.step b

theorem mem_finish (h : none ∈ s.units ∨ s.pending ≠ none) : none ∈ s.finish := by
  unfold finish
  cases hpending : s.pending with
  | none => simpa [hpending] using h
  | some p => simp

end Scanner

theorem decode?_of_mem {bs : Bytes} (h : none ∈ scan bs) : decode? bs = none := by
  have hall : (scan bs).all Option.isSome = false :=
    List.all_eq_false.mpr ⟨none, h, Bool.false_ne_true⟩
  simp only [decode?, hall, Bool.false_eq_true, if_false]

/-- The encoding of a text is all that is read as that text. -/
theorem decode?_eq_some_iff {bs : Bytes} {cs : List Char} :
    decode? bs = some cs ↔ bs = encode cs := by
  refine ⟨fun h => ?_, fun h => h ▸ decode?_encode cs⟩
  have hscan : none ∉ scan bs := fun hnone => by
    rw [decode?_of_mem hnone] at h
    cases h
  obtain hinvalid | ⟨cs', front, -, hbs, hfront⟩ := Scanner.reads_foldl bs
  · exact absurd (Scanner.mem_finish (.inl hinvalid)) hscan
  cases hpending : (bs.foldl Scanner.step Scanner.start).pending with
  | some p => exact absurd (Scanner.mem_finish (.inr (by simp [hpending]))) hscan
  | none =>
    rw [hpending] at hfront
    obtain rfl : front = [] := hfront
    rw [List.append_nil] at hbs
    rw [hbs, decode?_encode] at h
    rw [hbs, Option.some.inj h]

/-! ## The order of texts -/

section Order
variable {v w : Nat} {r r' : Bytes} {cs ds : List Char}

theorem cons_lt_cons (hw : w < 256) (h : v < w ∨ v = w ∧ r < r') :
    UInt8.ofNat v :: r < UInt8.ofNat w :: r' := by
  rw [List.cons_lt_cons_iff]
  refine h.imp (fun h => ?_) fun h => ⟨congrArg _ h.1, h.2⟩
  rwa [UInt8.lt_iff_toNat_lt, UInt8.toNat_ofNat_of_lt' (Nat.lt_trans h hw),
    UInt8.toNat_ofNat_of_lt' hw]

/-- A later character has higher bytes. Where both have as many of them, the codes are compared digit
by digit; otherwise the first byte says how many there are. -/
theorem encodeChar_lt {c d : Char} (h : c < d) :
    String.utf8EncodeChar c ++ r < String.utf8EncodeChar d ++ r' := by
  have hvw : c.val.toNat < d.val.toNat := h
  have hw : d.val.toNat < 0x110000 := d.valid.elim (fun h => by omega) fun h => h.2
  unfold String.utf8EncodeChar
  generalize c.val.toNat = v at hvw
  generalize d.val.toNat = w at hvw hw
  dsimp only
  by_cases htwo : 0x7F < v ∧ w ≤ 0x7FF
  · rw [if_neg (by omega), if_pos (by omega), if_neg (by omega), if_pos (by omega)]
    refine cons_lt_cons (by omega) ((Nat.lt_or_ge (v / 64) (w / 64)).imp (by omega) fun _ => ?_)
    exact ⟨by omega, cons_lt_cons (by omega) (.inl (by omega))⟩
  by_cases hthree : 0x7FF < v ∧ w ≤ 0xFFFF
  · rw [if_neg (by omega), if_neg (by omega), if_pos (by omega), if_neg (by omega),
      if_neg (by omega), if_pos (by omega)]
    refine cons_lt_cons (by omega)
      ((Nat.lt_or_ge (v / 4096) (w / 4096)).imp (by omega) fun _ => ⟨by omega, ?_⟩)
    refine cons_lt_cons (by omega)
      ((Nat.lt_or_ge (v / 64) (w / 64)).imp (by omega) fun _ => ⟨by omega, ?_⟩)
    exact cons_lt_cons (by omega) (.inl (by omega))
  by_cases hfour : 0xFFFF < v
  · rw [if_neg (by omega), if_neg (by omega), if_neg (by omega), if_neg (by omega),
      if_neg (by omega), if_neg (by omega)]
    refine cons_lt_cons (by omega)
      ((Nat.lt_or_ge (v / 262144) (w / 262144)).imp (by omega) fun _ => ⟨by omega, ?_⟩)
    refine cons_lt_cons (by omega)
      ((Nat.lt_or_ge (v / 4096) (w / 4096)).imp (by omega) fun _ => ⟨by omega, ?_⟩)
    refine cons_lt_cons (by omega)
      ((Nat.lt_or_ge (v / 64) (w / 64)).imp (by omega) fun _ => ⟨by omega, ?_⟩)
    exact cons_lt_cons (by omega) (.inl (by omega))
  repeat' split
  all_goals exact cons_lt_cons (by omega) (.inl (by omega))

theorem encode_cons_ne_nil (c : Char) (cs : List Char) : encode (c :: cs) ≠ [] := by
  have hlength : 0 < (String.utf8EncodeChar c).length := by
    rw [String.length_utf8EncodeChar]
    exact c.utf8Size_pos
  rw [encode_cons]
  exact List.append_ne_nil_of_left_ne_nil (List.ne_nil_of_length_pos hlength) _

theorem encode_lt (h : cs < ds) : encode cs < encode ds := by
  induction h with
  | @nil d ds =>
    obtain ⟨b, bs, hencode⟩ := List.exists_cons_of_ne_nil (encode_cons_ne_nil d ds)
    rw [hencode]
    exact List.nil_lt_cons b bs
  | rel h => exact encodeChar_lt h
  | cons _ ih =>
    rw [encode_cons, encode_cons]
    exact List.append_left_lt ih

theorem encode_lt_iff : encode cs < encode ds ↔ cs < ds := by
  refine ⟨fun h => ?_, encode_lt⟩
  by_contra hle
  obtain hlt | rfl := List.le_iff_lt_or_eq.mp (List.not_lt.mp hle)
  · exact List.lt_asymm h (encode_lt hlt)
  · exact List.lt_irrefl _ h

end Order

end Text.Utf8

@[simp] theorem Bytes.ofString_empty : ofString "" = [] := rfl

theorem Bytes.ofString_append (a b : String) : ofString (a ++ b) = ofString a ++ ofString b := by
  rw [ofString, String.toList_append, Text.Utf8.encode_append]
  rfl

theorem Bytes.ofString_foldl_append (l : List String) (a : String) :
    ofString (l.foldl (· ++ ·) a) = ofString a ++ (l.map ofString).flatten := by
  induction l generalizing a with
  | nil => simp
  | cons b rest ih =>
    rw [List.foldl_cons, ih, ofString_append, List.map_cons, List.flatten_cons, List.append_assoc]

theorem Bytes.ofString_join (l : List String) :
    ofString (String.join l) = (l.map ofString).flatten := by
  rw [String.join, ofString_foldl_append, ofString_empty, List.nil_append]

theorem Bytes.text?_ofString (s : String) : (ofString s).text? = some s := by
  rw [text?, ofString, Text.Utf8.decode?_encode, Option.map_some, String.ofList_toList]

theorem Bytes.text?_eq_some_iff {bs : Bytes} {s : String} : bs.text? = some s ↔ bs = ofString s := by
  rw [text?, ofString, Option.map_eq_some_iff]
  simp only [Text.Utf8.decode?_eq_some_iff]
  constructor
  · rintro ⟨cs, rfl, rfl⟩
    rw [String.toList_ofList]
  · intro h
    exact ⟨s.toList, h, String.ofList_toList⟩

/-- Texts are ordered as their bytes are. -/
theorem Bytes.ofString_le_iff {s t : String} : ofString s ≤ ofString t ↔ s ≤ t :=
  not_congr Text.Utf8.encode_lt_iff

/-! ## Trimmed texts -/

namespace Text
variable {cs body front back : List Char}

/-- No blank character stands at either end of a text. -/
structure Tight (cs : List Char) : Prop where
  head : ∀ c ∈ cs.head?, isBlank c = false
  last : ∀ c ∈ cs.getLast?, isBlank c = false

/-- `body` is what is left of a text without the blank characters at its end. -/
structure TrimsEnd (cs body : List Char) : Prop where
  split : ∃ back, cs = body ++ back ∧ ∀ c ∈ back, isBlank c = true
  last : ∀ c ∈ body.getLast?, isBlank c = false

/-- `body` is what is left of a text without the blank characters at its two ends. -/
structure Trims (cs body : List Char) : Prop where
  split : ∃ front back, cs = front ++ body ++ back ∧
    (∀ c ∈ front, isBlank c = true) ∧ ∀ c ∈ back, isBlank c = true
  tight : Tight body

/-- A text splits in one way into characters of a kind and a rest that begins with none of it. -/
theorem span_append {p : Char → Bool} (hf : ∀ c ∈ front, p c = true)
    (hb : ∀ c ∈ body.head?, p c = false) :
    (front ++ body).takeWhile p = front ∧ (front ++ body).dropWhile p = body := by
  rw [List.takeWhile_append_of_pos hf, List.dropWhile_append_of_pos hf]
  cases body with
  | nil => simp
  | cons c rest => simp [hb c rfl]

theorem exists_span (p : Char → Bool) (cs : List Char) : ∃ front body, cs = front ++ body ∧
    (∀ c ∈ front, p c = true) ∧ ∀ c ∈ body.head?, p c = false := by
  refine ⟨cs.takeWhile p, cs.dropWhile p, List.takeWhile_append_dropWhile.symm,
    fun c hc => List.mem_takeWhile_imp hc, fun c hc => ?_⟩
  have hnot := List.head?_dropWhile_not p cs
  rw [hc] at hnot
  exact hnot

theorem trimStart_append (hf : ∀ c ∈ front, isBlank c = true)
    (hb : ∀ c ∈ body.head?, isBlank c = false) : trimStart (front ++ body) = body :=
  (span_append hf hb).2

theorem exists_trimStart (cs : List Char) : ∃ front, cs = front ++ trimStart cs ∧
    (∀ c ∈ front, isBlank c = true) ∧ ∀ c ∈ (trimStart cs).head?, isBlank c = false := by
  obtain ⟨front, body, rfl, hf, hb⟩ := exists_span isBlank cs
  rw [trimStart_append hf hb]
  exact ⟨front, rfl, hf, hb⟩

theorem trimEnd_eq_iff : trimEnd cs = body ↔ TrimsEnd cs body := by
  constructor
  · rintro rfl
    obtain ⟨front, hcs, hf, hh⟩ := exists_trimStart cs.reverse
    refine ⟨⟨front.reverse, ?_, fun c hc => hf c (List.mem_reverse.mp hc)⟩, fun c hc => ?_⟩
    · have hrev := congrArg List.reverse hcs
      rwa [List.reverse_reverse, List.reverse_append] at hrev
    · rw [trimEnd, List.getLast?_reverse] at hc
      exact hh c hc
  · rintro ⟨⟨back, rfl, hb⟩, hl⟩
    have h : trimStart (back.reverse ++ body.reverse) = body.reverse := by
      refine trimStart_append (fun c hc => hb c (List.mem_reverse.mp hc)) fun c hc => hl c ?_
      rwa [List.head?_reverse] at hc
    rw [trimEnd, List.reverse_append]
    change (trimStart _).reverse = _
    rw [h, List.reverse_reverse]

theorem trim_eq_iff : trim cs = body ↔ Trims cs body := by
  rw [trim, trimEnd_eq_iff]
  constructor
  · rintro ⟨⟨back, hmid, hb⟩, hl⟩
    obtain ⟨front, hcs, hf, hh⟩ := exists_trimStart cs
    refine ⟨⟨front, back, ?_, hf, hb⟩, fun c hc => hh c ?_, hl⟩
    · rw [List.append_assoc, ← hmid]
      exact hcs
    · rw [hmid, List.head?_append, Option.mem_def.mp hc]
      rfl
  · rintro ⟨⟨front, back, rfl, hf, hb⟩, hh, hl⟩
    rw [List.append_assoc]
    cases body with
    | nil =>
      have hall : ∀ c ∈ front ++ back, isBlank c = true := by
        intro c hc
        exact (List.mem_append.mp hc).elim (hf c) (hb c)
      have hnil : trimStart (front ++ back ++ []) = [] :=
        trimStart_append hall fun c hc => hh c hc
      rw [List.append_nil] at hnil
      rw [List.nil_append, hnil]
      exact ⟨⟨[], rfl, fun c hc => absurd hc List.not_mem_nil⟩, hl⟩
    | cons c body =>
      rw [trimStart_append hf]
      · exact ⟨⟨back, rfl, hb⟩, hl⟩
      · exact fun d hd => hh d hd

end Text

/-! ## Decimal digits -/

theorem head?_toDigits_ne_zero {n : Nat} (h : 0 < n) : (Nat.toDigits 10 n).head? ≠ some '0' := by
  induction n using Nat.strongRecOn with
  | ind n ih =>
    by_cases hn : n < 10
    · rw [Nat.toDigits_of_lt_base hn]
      clear ih
      revert h
      decide +revert
    · have ih := ih (n / 10) (by omega) (by omega)
      rw [Nat.toDigits_of_base_le (by decide) (by omega)]
      cases hq : Nat.toDigits 10 (n / 10) with
      | nil => exact absurd hq Nat.toDigits_ne_nil
      | cons d ds => rwa [hq] at ih

/-- The first digit of a number and those that follow it. -/
theorem toDigits_eq_cons (n : Nat) : ∃ d ds, Nat.toDigits 10 n = d :: ds ∧ d.isDigit = true ∧
    (∀ c ∈ ds, c.isDigit = true) ∧ (d = '0' → ds = []) := by
  have hdigit : ∀ c ∈ Nat.toDigits 10 n, c.isDigit = true :=
    fun c hc => Nat.isDigit_of_mem_toDigits (by decide) (by decide) hc
  cases h : Nat.toDigits 10 n with
  | nil => exact absurd h Nat.toDigits_ne_nil
  | cons d ds =>
    rw [h] at hdigit
    refine ⟨d, ds, rfl, hdigit d (by simp), fun c hc => hdigit c (by simp [hc]), ?_⟩
    rintro rfl
    rcases Nat.eq_zero_or_pos n with rfl | hn
    · cases h
      rfl
    · exact absurd (by rw [h]; rfl) (head?_toDigits_ne_zero hn)

end Scratchpad
