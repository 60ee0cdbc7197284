import Scratchpad.Toml.Token
import Scratchpad.Toml.Writer

/-!
# Written strings are read back

Whichever of the four forms a string is written in, the scanner reads the string from it. In a
string over several lines a few quotes may stand in a row without closing it; the scanner is then
known by the characters before them and by their number.
-/

namespace Scratchpad.Toml

namespace Token.Scanner
variable {ts : List Token}

/-- Reads characters of a text. -/
def read (s : Scanner) (cs : List Char) : Option Scanner :=
  cs.foldlM step s

@[simp] theorem read_nil (s : Scanner) : s.read [] = some s := rfl

theorem read_cons (s : Scanner) (c : Char) (cs : List Char) :
    s.read (c :: cs) = (s.step c).bind (·.read cs) := by
  rw [read, List.foldlM_cons]
  rfl

theorem read_append (s : Scanner) (cs cs' : List Char) :
    s.read (cs ++ cs') = (s.read cs).bind (·.read cs') := by
  rw [read, List.foldlM_append]
  rfl

/-! ## Inside a string -/

/-- How many quotes may stand in a row in a string. -/
def quoteLimit (lines : Bool) : Nat :=
  if lines then 2 else 0

/-- Inside a string, of which `acc` and then `run` quotes were read. -/
def held (ts : List Token) (literal lines : Bool) (acc : List Char) (run : Nat) : Scanner :=
  if run = 0 then ⟨ts, if lines then .body literal acc else .line literal acc⟩
  else ⟨ts, .closing literal acc run⟩

/-- A character of a string. -/
def stepHeld (ts : List Token) (literal lines : Bool) (acc : List Char) (c : Char) :
    Option Scanner :=
  if lines then stepBody ts literal acc c else stepLine ts literal acc c

variable {literal lines : Bool} {acc : List Char} {run : Nat}

theorem step_held {c : Char} (hc : c ≠ quoteOf literal) (hrun : run ≤ quoteLimit lines) :
    step (held ts literal lines acc run) c =
      stepHeld ts literal lines (List.replicate run (quoteOf literal) ++ acc) c := by
  cases lines with
  | false =>
    obtain rfl : run = 0 := Nat.le_zero.mp hrun
    rfl
  | true =>
    have hrun : run ≤ 2 := hrun
    cases run with
    | zero => rfl
    | succ n =>
      have hn : n + 1 < 3 := by omega
      simp only [step, held, stepClosing, stepHeld, Nat.add_one_ne_zero, if_false, hc, hn, if_true]

theorem step_held_quote (hrun : run < quoteLimit lines) :
    step (held ts literal lines acc run) (quoteOf literal) =
      some (held ts literal lines acc (run + 1)) := by
  cases lines with
  | false => exact absurd hrun (Nat.not_lt_zero run)
  | true =>
    have hrun : run < 2 := hrun
    cases run with
    | zero => simp [step, held, stepBody]
    | succ n =>
      have hn : n + 1 ≠ 4 := by omega
      simp only [step, held, stepClosing, Nat.add_one_ne_zero, if_false, if_true, hn]

/-- The quotes at the end of a string and the end of its line. -/
theorem read_closing (hrun : run ≤ quoteLimit lines) :
    read (held ts literal lines acc run)
        (List.replicate (if lines then 3 else 1) (quoteOf literal) ++ ['\n']) =
      some ⟨.newline :: textToken (List.replicate run (quoteOf literal) ++ acc) lines :: ts,
        .between⟩ := by
  cases lines with
  | false =>
    obtain rfl : run = 0 := Nat.le_zero.mp hrun
    cases literal <;> rfl
  | true =>
    have hrun : run ≤ 2 := hrun
    obtain rfl | rfl | rfl : run = 0 ∨ run = 1 ∨ run = 2 := by omega
    all_goals cases literal <;> rfl

theorem stepHeld_of_plain {c : Char} (hc : c ≠ quoteOf literal) (hb : literal = false → c ≠ '\\')
    (hplain : isPlain c = true ∨ lines = true ∧ c = '\n') :
    stepHeld ts literal lines acc c = some (held ts literal lines (c :: acc) 0) := by
  have hescape : (decide (c = '\\') && !literal) = false := by
    cases literal with
    | true => simp
    | false => simp [hb rfl]
  cases lines with
  | false =>
    have hplain : isPlain c = true := hplain.resolve_right (by simp)
    simp [stepHeld, stepLine, hc, hescape, hplain, held]
  | true =>
    have hcarriage : c ≠ '\r' := by
      rintro rfl
      revert hplain
      decide
    have hplain : (decide (c = '\n') || isPlain c) = true := by
      rcases hplain with h | ⟨_, rfl⟩
      · simp [h]
      · rfl
    simp [stepHeld, stepBody, hc, hescape, hcarriage, hplain, held]

/-! ## Literal strings -/

end Token.Scanner

namespace Form

/-- One more character, for the longest run of `c` and the run that is under way. -/
def stepRun (c : Char) (runs : Nat × Nat) (d : Char) : Nat × Nat :=
  if d = c then (runs.1 + 1, max runs.2 (runs.1 + 1)) else (0, runs.2)

theorem longestRun_eq (c : Char) (cs : List Char) :
    longestRun c cs = (cs.foldl (stepRun c) (0, 0)).2 := rfl

theorem le_foldl_stepRun (c : Char) (cs : List Char) (runs : Nat × Nat) :
    runs.2 ≤ (cs.foldl (stepRun c) runs).2 := by
  induction cs generalizing runs with
  | nil => exact Nat.le_refl _
  | cons d cs ih =>
    have hd : runs.2 ≤ (stepRun c runs d).2 := by
      unfold stepRun
      split
      · exact Nat.le_max_left _ _
      · exact Nat.le_refl _
    exact Nat.le_trans hd (ih _)

theorem head?_ne_of_longestRun {c : Char} {cs : List Char} (h : longestRun c cs = 0) :
    cs.head? ≠ some c := by
  cases cs with
  | nil => nofun
  | cons d cs =>
    intro hd
    cases hd
    rw [longestRun_eq, List.foldl_cons, stepRun, if_pos rfl] at h
    exact absurd (le_foldl_stepRun c cs (0 + 1, max 0 (0 + 1))) (by rw [h]; decide)

end Form

namespace Token.Scanner
open Form
variable {ts : List Token} {lines : Bool}

/-- The characters of a literal string stand for themselves. -/
theorem read_literal {cs : List Char}
    (hplain : ∀ c ∈ cs, isPlain c = true ∨ lines = true ∧ c = '\n') (acc : List Char)
    (run best : Nat) (hrun : run ≤ quoteLimit lines)
    (hbest : (cs.foldl (stepRun '\'') (run, best)).2 ≤ quoteLimit lines) :
    ∃ acc' run', run' ≤ quoteLimit lines ∧
      read (held ts true lines acc run) cs = some (held ts true lines acc' run') ∧
      List.replicate run' '\'' ++ acc' = cs.reverse ++ (List.replicate run '\'' ++ acc) := by
  induction cs generalizing acc run best with
  | nil => exact ⟨acc, run, hrun, rfl, rfl⟩
  | cons c cs ih =>
    have hcs : ∀ d ∈ cs, isPlain d = true ∨ lines = true ∧ d = '\n' :=
      fun d hd => hplain d (List.mem_cons_of_mem _ hd)
    rw [List.foldl_cons] at hbest
    by_cases hc : c = '\''
    · subst hc
      rw [stepRun, if_pos rfl] at hbest
      have hmax : max best (run + 1) ≤ quoteLimit lines :=
        Nat.le_trans (le_foldl_stepRun '\'' cs (run + 1, max best (run + 1))) hbest
      have hnext : run + 1 ≤ quoteLimit lines := Nat.le_trans (Nat.le_max_right _ _) hmax
      have hstep : step (held ts true lines acc run) '\'' =
          some (held ts true lines acc (run + 1)) :=
        step_held_quote hnext
      obtain ⟨acc', run', hrun', hread, heq⟩ := ih hcs acc (run + 1) _ hnext hbest
      refine ⟨acc', run', hrun', ?_, ?_⟩
      · rw [read_cons, hstep, Option.bind_some, hread]
      · rw [heq]
        simp [List.replicate_succ]
    · rw [stepRun, if_neg hc] at hbest
      have hstep : step (held ts true lines acc run) c =
          some (held ts true lines (c :: (List.replicate run '\'' ++ acc)) 0) := by
        rw [step_held hc hrun]
        exact stepHeld_of_plain hc nofun (hplain c List.mem_cons_self)
      obtain ⟨acc', run', hrun', hread, heq⟩ := ih hcs _ 0 _ (Nat.zero_le _) hbest
      refine ⟨acc', run', hrun', ?_, ?_⟩
      · rw [read_cons, hstep, Option.bind_some, hread]
      · rw [heq]
        simp

/-! ## Basic strings -/

theorem step_backslash {acc : List Char} {run : Nat} (hrun : run ≤ quoteLimit lines) :
    step (held ts false lines acc run) '\\' =
      some ⟨ts, .escape lines (List.replicate run '"' ++ acc)⟩ := by
  rw [step_held (by decide) hrun]
  cases lines <;> rfl

/-- A backslash and a letter. -/
theorem read_letter {acc : List Char} {run : Nat} (hrun : run ≤ quoteLimit lines)
    {letter c : Char} (h : escaped? letter = some c) :
    read (held ts false lines acc run) ['\\', letter] =
      some (held ts false lines (c :: (List.replicate run '"' ++ acc)) 0) := by
  have hletter : step ⟨ts, .escape lines (List.replicate run '"' ++ acc)⟩ letter =
      some (held ts false lines (c :: (List.replicate run '"' ++ acc)) 0) := by
    simp only [step, stepEscape, h]
    cases lines <;> rfl
  rw [read_cons, step_backslash hrun, Option.bind_some, read_cons, hletter, Option.bind_some,
    read_nil]

/-- A backslash and the code of a control character. -/
theorem read_code {acc : List Char} {run : Nat} (hrun : run ≤ quoteLimit lines) {n : Nat}
    (h : n < 0x80) :
    read (held ts false lines acc run)
        ("\\u00".toList ++ [Text.upperHexDigit (n / 16), Text.upperHexDigit n]) =
      some (held ts false lines (Char.ofNat n :: (List.replicate run '"' ++ acc)) 0) := by
  have hhigh : Text.hexValue? (Text.upperHexDigit (n / 16)) = some (n / 16) :=
    Text.hexValue?_upperHexDigit (by omega)
  have hlow : Text.hexValue? (Text.upperHexDigit n) = some (n % 16) := by
    rw [show Text.upperHexDigit n = Text.upperHexDigit (n % 16) by
      simp [Text.upperHexDigit, Text.hexDigit]]
    exact Text.hexValue?_upperHexDigit (by omega)
  have hvalid : n.isValidChar := .inl (by omega)
  have hbackslash := @step_backslash ts lines acc run hrun
  generalize List.replicate run '"' ++ acc = acc' at hbackslash ⊢
  have hfirst : step ⟨ts, .hex lines acc' 2 0⟩ (Text.upperHexDigit (n / 16)) =
      some ⟨ts, .hex lines acc' 1 (n / 16)⟩ := by
    simp [step, stepHex, hhigh]
  have hlast : step ⟨ts, .hex lines acc' 1 (n / 16)⟩ (Text.upperHexDigit n) =
      some (held ts false lines (Char.ofNat n :: acc') 0) := by
    have hn : n / 16 * 16 + n % 16 = n := by omega
    have hcode : step ⟨ts, .hex lines acc' 1 (n / 16)⟩ (Text.upperHexDigit n) =
        some ⟨ts, inString lines (Char.ofNat n :: acc')⟩ := by
      simp [step, stepHex, hlow, hn, hvalid]
    rw [hcode]
    cases lines <;> rfl
  change read _ ('\\' :: ['u', '0', '0', Text.upperHexDigit (n / 16), Text.upperHexDigit n]) = _
  rw [read_cons, hbackslash, Option.bind_some]
  change read ⟨ts, .hex lines acc' 2 0⟩ [Text.upperHexDigit (n / 16), Text.upperHexDigit n] = _
  rw [read_cons, hfirst, Option.bind_some, read_cons, hlast, Option.bind_some, read_nil]

theorem isPlain_of_not_needsEscape {c : Char} (h : needsEscape c = false) (hn : c ≠ '\n') :
    isPlain c = true := by
  simp only [needsEscape, isPlain, isControl, Bool.and_eq_false_iff, bne_eq_false_iff_eq,
    Bool.or_eq_true, beq_iff_eq, Bool.not_eq_true'] at h ⊢
  rcases h with (h | h) | h
  · exact .inr h
  · exact .inl h
  · exact absurd h hn

theorem read_escape {acc : List Char} {run : Nat} (hrun : run ≤ quoteLimit lines) {c : Char}
    (hc : c ≠ '"') : read (held ts false lines acc run) (escape lines c) =
      some (held ts false lines (c :: (List.replicate run '"' ++ acc)) 0) := by
  have hself (hb : c ≠ '\\') (hplain : isPlain c = true ∨ lines = true ∧ c = '\n') :
      read (held ts false lines acc run) [c] =
        some (held ts false lines (c :: (List.replicate run '"' ++ acc)) 0) := by
    have hq : c ≠ quoteOf false := hc
    rw [read_cons, step_held hq hrun, stepHeld_of_plain hq (fun _ => hb) hplain]
    rfl
  unfold escape
  split
  case h_6 =>
    split
    next hlines => exact hself (by decide) (.inr ⟨hlines, rfl⟩)
    next => exact read_letter hrun rfl
  case h_7 hb ht hf hr hs hn =>
    split
    next h =>
      have hlt : c.toNat < 0x80 := by
        simp only [needsEscape, Bool.and_eq_true, Bool.or_eq_true, decide_eq_true_eq,
          beq_iff_eq] at h
        omega
      rw [read_code hrun hlt, Char.ofNat_toNat]
    next h => exact hself hs (.inl (isPlain_of_not_needsEscape (by simpa using h) hn))
  all_goals exact read_letter hrun rfl

/-- As many quotes stand in a row as may. -/
theorem full_iff {run : Nat} (hrun : run ≤ quoteLimit lines) :
    (!lines || run == 2) = true ↔ run = quoteLimit lines := by
  cases lines with
  | false => simpa [quoteLimit] using hrun
  | true => simp [quoteLimit]

/-- A string is read back from its characters in a basic form. -/
theorem read_basicChars (cs acc : List Char) (run : Nat) (hrun : run ≤ quoteLimit lines) :
    ∃ acc' run', run' ≤ quoteLimit lines ∧
      read (held ts false lines acc run) (basicChars lines run cs) =
        some (held ts false lines acc' run') ∧
      List.replicate run' '"' ++ acc' = cs.reverse ++ (List.replicate run '"' ++ acc) := by
  induction cs generalizing acc run with
  | nil => exact ⟨acc, run, hrun, rfl, rfl⟩
  | cons c cs ih =>
    rw [basicChars]
    split
    next hc =>
      subst hc
      split
      next hfull =>
        obtain ⟨acc', run', hrun', hread, heq⟩ := ih _ 0 (Nat.zero_le _)
        refine ⟨acc', run', hrun', ?_, ?_⟩
        · change read _ (['\\', '"'] ++ basicChars lines 0 cs) = _
          rw [read_append, read_letter hrun rfl, Option.bind_some, hread]
        · rw [heq]
          simp
      next hfull =>
        have hnext : run < quoteLimit lines := by
          rw [full_iff hrun] at hfull
          omega
        have hstep : step (held ts false lines acc run) '"' =
            some (held ts false lines acc (run + 1)) := step_held_quote hnext
        obtain ⟨acc', run', hrun', hread, heq⟩ := ih acc (run + 1) hnext
        refine ⟨acc', run', hrun', ?_, ?_⟩
        · rw [read_cons, hstep, Option.bind_some, hread]
        · rw [heq]
          simp [List.replicate_succ]
    next hc =>
      obtain ⟨acc', run', hrun', hread, heq⟩ := ih _ 0 (Nat.zero_le _)
      refine ⟨acc', run', hrun', ?_, ?_⟩
      · rw [read_append, read_escape hrun hc, Option.bind_some, hread]
      · rw [heq]
        simp

/-! ## Whole strings -/

/-- What stands between the quotes of a string is read as the string `cs`. -/
def Holds (literal lines : Bool) (content cs : List Char) : Prop :=
  ∀ ts, ∃ acc run, run ≤ quoteLimit lines ∧
    read (held ts literal lines [] 0) content = some (held ts literal lines acc run) ∧
    List.replicate run (quoteOf literal) ++ acc = cs.reverse

theorem Holds.read_closed {literal lines : Bool} {content cs : List Char}
    (h : Holds literal lines content cs) :
    read (held ts literal lines [] 0) (content ++
        (List.replicate (if lines then 3 else 1) (quoteOf literal) ++ ['\n'])) =
      some ⟨.newline :: .text (String.ofList cs) lines :: ts, .between⟩ := by
  obtain ⟨acc, run, hrun, hread, heq⟩ := h ts
  have htoken : textToken cs.reverse lines = .text (String.ofList cs) lines := by simp [textToken]
  rw [read_append, hread, Option.bind_some, read_closing hrun, heq, htoken]

theorem holds_basicChars (cs : List Char) : Holds false lines (basicChars lines 0 cs) cs := by
  intro ts
  obtain ⟨acc, run, hrun, hread, heq⟩ := @read_basicChars ts lines cs [] 0 (Nat.zero_le _)
  exact ⟨acc, run, hrun, hread, heq.trans (by simp)⟩

theorem holds_literal {cs : List Char}
    (hplain : ∀ c ∈ cs, isPlain c = true ∨ lines = true ∧ c = '\n')
    (hruns : longestRun '\'' cs ≤ quoteLimit lines) : Holds true lines cs cs := by
  intro ts
  obtain ⟨acc, run, hrun, hread, heq⟩ :=
    @read_literal ts lines cs hplain [] 0 0 (Nat.zero_le _) hruns
  exact ⟨acc, run, hrun, hread, heq.trans (by simp)⟩

/-- The beginning of a string on one line, which is empty if the quote comes again at once. -/
theorem read_quotes {literal : Bool} {content : List Char}
    (h : content.head? ≠ some (quoteOf literal)) :
    read ⟨ts, .quotes literal 1⟩ (content ++ [quoteOf literal, '\n']) =
      read (held ts literal false [] 0) (content ++ [quoteOf literal, '\n']) := by
  cases content with
  | nil => cases literal <;> rfl
  | cons c cs =>
    have hc : c ≠ quoteOf literal := by simpa using h
    have hstep : step ⟨ts, .quotes literal 1⟩ c = step (held ts literal false [] 0) c := by
      simp only [step, held, hc, if_false, if_true]
      rfl
    rw [List.cons_append, read_cons, hstep, ← read_cons]

/-- The beginning of a string over several lines. -/
theorem read_first {literal : Bool} {c : Char} (hn : c ≠ '\n') (hr : c ≠ '\r') (cs : List Char) :
    read ⟨ts, .first literal⟩ (c :: cs) = read (held ts literal true [] 0) (c :: cs) := by
  have hstep : step ⟨ts, .first literal⟩ c = step (held ts literal true [] 0) c := by
    simp only [step, held, hn, hr, if_false, if_true]
  rw [read_cons, hstep, ← read_cons]

theorem head?_escape {c d : Char} (h : (escape lines c).head? = some d) :
    d = '\\' ∨ d = c ∧ c ≠ '\r' := by
  unfold escape at h
  split at h
  case h_6 => split at h <;> cases h <;> decide
  case h_7 hr _ _ =>
    split at h
    · cases h
      exact .inl rfl
    · cases h
      exact .inr ⟨rfl, hr⟩
  all_goals
    cases h
    exact .inl rfl

theorem escape_ne_nil (c : Char) : escape lines c ≠ [] := by
  unfold escape
  split
  case h_6 => split <;> exact List.cons_ne_nil _ _
  case h_7 => split <;> exact List.cons_ne_nil _ _
  all_goals exact List.cons_ne_nil _ _

theorem head?_basicChars {cs : List Char} {d : Char}
    (h : (basicChars lines 0 cs).head? = some d) :
    (d = '\n' → '\n' ∈ cs) ∧ d ≠ '\r' ∧ (d = '"' → lines = true) := by
  cases cs with
  | nil => cases h
  | cons c cs =>
    rw [basicChars] at h
    split at h
    next hc =>
      split at h
      next =>
        cases h
        exact ⟨fun hn => absurd hn (by decide), by decide, fun hq => absurd hq (by decide)⟩
      next hfull =>
        cases h
        exact ⟨fun hn => absurd hn (by decide), by decide, fun _ => by simpa using hfull⟩
    next hc =>
      cases he : escape lines c with
      | nil => exact absurd he (escape_ne_nil c)
      | cons e es =>
        rw [he] at h
        cases h
        obtain rfl | ⟨rfl, hr⟩ := head?_escape (congrArg List.head? he)
        · exact ⟨fun hn => absurd hn (by decide), by decide, fun hq => absurd hq (by decide)⟩
        · exact ⟨fun hn => by simp [hn], hr, fun hq => absurd hq hc⟩

end Token.Scanner

namespace Form

/-- A literal form is chosen only for a string that it can hold. -/
theorem of_choose_eq_literal {cs : List Char} (h : choose cs = .literal) :
    cs.any needsEscape = false ∧ longestRun '\'' cs = 0 ∧ '\n' ∉ cs := by
  grind [choose]

theorem of_choose_eq_literalLines {cs : List Char} (h : choose cs = .literalLines) :
    cs.any needsEscape = false ∧ longestRun '\'' cs ≤ 2 := by
  grind [choose]

end Form

namespace Token.Scanner
open Form

theorem plain_of_not_needsEscape {cs : List Char} (h : cs.any needsEscape = false)
    (hn : '\n' ∈ cs → lines = true) : ∀ c ∈ cs, isPlain c = true ∨ lines = true ∧ c = '\n' := by
  intro c hc
  by_cases hcn : c = '\n'
  · subst hcn
    exact .inr ⟨hn hc, rfl⟩
  · exact .inl (isPlain_of_not_needsEscape (by simpa using List.any_eq_false.mp h c hc) hcn)

/-- A string over several lines, whose first line break is dropped. -/
theorem Holds.read_lines {literal : Bool} {content cs : List Char}
    (h : Holds literal true content cs)
    (hhead : ∀ d, content.head? = some d → (d = '\n' → '\n' ∈ cs) ∧ d ≠ '\r') :
    read ⟨ts, .first literal⟩ ((if cs.contains '\n' then ['\n'] else []) ++ (content ++
        (List.replicate 3 (quoteOf literal) ++ ['\n']))) =
      some ⟨.newline :: .text (String.ofList cs) true :: ts, .between⟩ := by
  rw [← h.read_closed]
  by_cases hn : '\n' ∈ cs
  · rw [if_pos (List.contains_iff_mem.mpr hn)]
    rfl
  · rw [if_neg (mt List.contains_iff_mem.mp hn)]
    cases content with
    | nil => cases literal <;> rfl
    | cons c content =>
      obtain ⟨hc, hr⟩ := hhead c rfl
      exact read_first (mt hc hn) hr _

/-- A string on one line. -/
theorem Holds.read_line {literal : Bool} {content cs : List Char}
    (h : Holds literal false content cs) (hhead : content.head? ≠ some (quoteOf literal)) :
    read ⟨ts, .quotes literal 1⟩ (content ++ [quoteOf literal] ++ ['\n']) =
      some ⟨.newline :: .text (String.ofList cs) false :: ts, .between⟩ := by
  rw [List.append_assoc]
  exact (read_quotes hhead).trans h.read_closed

/-- A written string and the end of its line. -/
theorem read_writeString (s : String) : ∃ lines, ∀ ts,
    read ⟨ts, .between⟩ (writeString s ++ ['\n']) =
      some ⟨.newline :: .text s lines :: ts, .between⟩ := by
  rw [← s.ofList_toList, writeString, String.toList_ofList]
  generalize s.toList = cs
  cases hform : choose cs with
  | basic =>
    have hhead : (basicChars false 0 cs).head? ≠ some '"' := fun h =>
      absurd ((head?_basicChars h).2.2 rfl) (by decide)
    exact ⟨false, fun _ => (holds_basicChars cs).read_line hhead⟩
  | literal =>
    obtain ⟨hescape, hruns, hn⟩ := of_choose_eq_literal hform
    have hholds : Holds true false cs cs :=
      holds_literal (plain_of_not_needsEscape hescape fun h => absurd h hn) (Nat.le_of_eq hruns)
    exact ⟨false, fun _ => hholds.read_line (head?_ne_of_longestRun hruns)⟩
  | basicLines =>
    refine ⟨true, fun ts => ?_⟩
    simp only [write, List.append_assoc]
    exact (holds_basicChars cs).read_lines fun d hd =>
      ⟨(head?_basicChars hd).1, (head?_basicChars hd).2.1⟩
  | literalLines =>
    obtain ⟨hescape, hruns⟩ := of_choose_eq_literalLines hform
    have hplain : ∀ c ∈ cs, isPlain c = true ∨ true = true ∧ c = '\n' :=
      plain_of_not_needsEscape hescape fun _ => rfl
    refine ⟨true, fun ts => ?_⟩
    simp only [write, List.append_assoc]
    refine (holds_literal hplain hruns).read_lines fun d hd => ⟨?_, ?_⟩
    · rintro rfl
      exact List.mem_of_mem_head? hd
    · rintro rfl
      exact absurd (hplain _ (List.mem_of_mem_head? hd)) (by decide)

end Token.Scanner

end Scratchpad.Toml
