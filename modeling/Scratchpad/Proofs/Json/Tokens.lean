import Scratchpad.Json.Writer
import Scratchpad.Proofs.Text

/-!
# The tokens of written JSON

A value is written as certain tokens, `Json.tokens`. The compact form scans to these tokens, and so
does the pretty form, whose blanks all stand between tokens. A number ends only where the next
token begins, so what is said of a value is that the scanner stands behind its tokens, not that it
stands between tokens.
-/

namespace Scratchpad.Json

/-- The literal that a number is written as; that of a double is not needed here. -/
def Number.literal : Number → Literal
  | .int n => ⟨decide (n < 0), Nat.toDigits 10 n.natAbs, [], none⟩
  | .real negative _ => ⟨negative, [], [], none⟩

mutual

/-- The tokens that a value is written as. -/
def tokens : Json → List Token
  | .null => [.null]
  | .bool b => [.bool b]
  | .number n => [.number n.literal]
  | .string s => [.string (some s)]
  | .array items => .openArray :: itemTokens items
  | .object members => .openObject :: memberTokens members

def itemTokens : List Json → List Token
  | [] => [.closeArray]
  | [x] => tokens x ++ [.closeArray]
  | x :: rest => tokens x ++ .comma :: itemTokens rest

def memberTokens : List (String × Json) → List Token
  | [] => [.closeObject]
  | [(k, x)] => .string (some k) :: .colon :: tokens x ++ [.closeObject]
  | (k, x) :: rest => .string (some k) :: .colon :: tokens x ++ .comma :: memberTokens rest

end

/-- The values that a reader makes of texts without doubles: integers fit 64 bits, keys are sorted
and distinct, and there are at most `depth` levels of nesting. -/
inductive Readable : Nat → Json → Prop
  | null {depth : Nat} : Readable depth .null
  | bool {depth : Nat} (b : Bool) : Readable depth (.bool b)
  | int {depth : Nat} {n : Int} (h : -(UInt64.size / 2 : Nat) ≤ n ∧ n < UInt64.size) :
    Readable depth (.number (.int n))
  | string {depth : Nat} (s : String) : Readable depth (.string s)
  | array {depth : Nat} {items : List Json} (h : ∀ x ∈ items, Readable depth x) :
    Readable (depth + 1) (.array items)
  | object {depth : Nat} {members : List (String × Json)}
    (sorted : members.Pairwise fun a b => a.1 < b.1) (h : ∀ m ∈ members, Readable depth m.2) :
    Readable (depth + 1) (.object members)

namespace Token.Scanner
variable {ts : List Token}

/-- Reads characters of a text. -/
def read (s : Scanner) (cs : List Char) : Option Scanner :=
  (cs.map some).foldlM step s

@[simp] theorem read_nil (s : Scanner) : s.read [] = some s := rfl

theorem read_cons (s : Scanner) (c : Char) (cs : List Char) :
    s.read (c :: cs) = (s.step (some c)).bind (·.read cs) := by
  rw [read, List.map_cons, List.foldlM_cons]
  rfl

theorem read_append (s : Scanner) (cs cs' : List Char) :
    s.read (cs ++ cs') = (s.read cs).bind (·.read cs') := by
  rw [read, List.map_append, List.foldlM_append]
  rfl

theorem read_between_cons (c : Char) (cs : List Char) :
    read ⟨ts, .between⟩ (c :: cs) = (begin ts c).bind (·.read cs) :=
  read_cons _ _ _

/-! ## Strings -/

theorem step_hex {t : Contents} {left code d : Nat} {c : Char} (h : Text.hexValue? c = some d) :
    step ⟨ts, .hex t left code⟩ (some c) =
      some ⟨ts, if left = 1 then .string (t.pushCode (code * 16 + d))
        else .hex t (left - 1) (code * 16 + d)⟩ := by
  simp only [step, h]
  rfl

theorem pushCode_of_lt (chars : List Char) {code : Nat} (h : code < 0xD800) :
    (⟨chars, true, none⟩ : Contents).pushCode code = ⟨Char.ofNat code :: chars, true, none⟩ := by
  have hhigh : (decide (0xD800 ≤ code) && decide (code < 0xDC00)) = false := by
    simp only [Bool.and_eq_false_iff, decide_eq_false_iff_not]
    omega
  have hlow : (decide (0xDC00 ≤ code) && decide (code < 0xE000)) = false := by
    simp only [Bool.and_eq_false_iff, decide_eq_false_iff_not]
    omega
  simp only [Contents.pushCode, hhigh, hlow, Bool.false_eq_true, if_false]
  rfl

/-- A control character is escaped by its code. -/
theorem read_hexEscape (chars : List Char) {n : Nat} (h : n < 0x20) :
    read ⟨ts, .string ⟨chars, true, none⟩⟩
        ("\\u00".toList ++ [Text.hexDigit (n / 16), Text.hexDigit n]) =
      some ⟨ts, .string ⟨Char.ofNat n :: chars, true, none⟩⟩ := by
  have hhigh : Text.hexValue? (Text.hexDigit (n / 16)) = some (n / 16) :=
    Text.hexValue?_hexDigit (by omega)
  have hlow : Text.hexValue? (Text.hexDigit n) = some (n % 16) := by
    rw [show Text.hexDigit n = Text.hexDigit (n % 16) by simp [Text.hexDigit]]
    exact Text.hexValue?_hexDigit (by omega)
  change read ⟨ts, .hex ⟨chars, true, none⟩ 2 0⟩ [Text.hexDigit (n / 16), Text.hexDigit n] = _
  rw [read_cons, step_hex hhigh, Option.bind_some, if_neg (by decide), read_cons, step_hex hlow,
    Option.bind_some, if_pos rfl, read_nil,
    show (0 * 16 + n / 16) * 16 + n % 16 = n by omega, pushCode_of_lt chars (by omega)]

/-- A character is read back from its escape. -/
theorem read_escape (chars : List Char) (c : Char) :
    read ⟨ts, .string ⟨chars, true, none⟩⟩ (escape c) =
      some ⟨ts, .string ⟨c :: chars, true, none⟩⟩ := by
  unfold escape
  split
  all_goals try rfl
  next hq hb _ _ _ _ _ =>
    split
    next hlt => rw [read_hexEscape chars hlt, Char.ofNat_toNat]
    next hge =>
      have hstep : step ⟨ts, .string ⟨chars, true, none⟩⟩ (some c) =
          some ⟨ts, .string ⟨c :: chars, true, none⟩⟩ := by
        simp only [step, stepString]
        rw [if_neg hq, if_neg hb, if_neg hge]
        rfl
      rw [read_cons, hstep, Option.bind_some, read_nil]

theorem read_flatMap_escape (chars cs : List Char) :
    read ⟨ts, .string ⟨chars, true, none⟩⟩ (cs.flatMap escape) =
      some ⟨ts, .string ⟨cs.reverse ++ chars, true, none⟩⟩ := by
  induction cs generalizing chars with
  | nil => rfl
  | cons c cs ih =>
    rw [List.flatMap_cons, read_append, read_escape, Option.bind_some, ih, List.reverse_cons,
      List.append_assoc]
    rfl

/-- A text is read back from its quoted form. -/
theorem read_quote (s : String) :
    read ⟨ts, .between⟩ (quote s) = some ⟨.string (some s) :: ts, .between⟩ := by
  have htoken : Contents.token ⟨s.toList.reverse ++ [], true, none⟩ = .string (some s) := by
    simp [Contents.token]
  change read ⟨ts, .string ⟨[], true, none⟩⟩ (s.toList.flatMap escape ++ ['"']) = _
  rw [read_append, read_flatMap_escape, Option.bind_some, ← htoken]
  rfl

/-- A character that no number goes on with. -/
def endsNumber (c : Char) : Bool :=
  !c.isDigit && c != '.' && c != 'e' && c != 'E'

/-- The scanner stands behind the tokens `ts`, the last one first: between tokens or in a number that
may end. -/
structure Behind (s : Scanner) (ts : List Token) : Prop where
  step : ∀ c, endsNumber c = true → s.step (some c) = begin ts c
  finish : s.finish = some ts.reverse

theorem behind_between : Behind ⟨ts, .between⟩ ts where
  step _ _ := rfl
  finish := rfl

theorem Behind.read_cons {s : Scanner} (h : s.Behind ts) {c : Char} (hc : endsNumber c = true)
    (cs : List Char) : s.read (c :: cs) = read ⟨ts, .between⟩ (c :: cs) := by
  rw [Scanner.read_cons, h.step c hc, read_between_cons]

/-! ## Numbers -/

theorem begin_digit {c : Char} (h : c.isDigit = true) :
    begin ts c = some ⟨ts, .number .whole ⟨false, [c], [], none⟩⟩ := by
  have hspace : isSpace c = false := by
    simp only [isSpace, Bool.or_eq_false_iff, beq_eq_false_iff_ne]
    refine ⟨⟨⟨?_, ?_⟩, ?_⟩, ?_⟩ <;> rintro rfl <;> cases h
  unfold begin
  rw [hspace]
  simp only [Bool.false_eq_true, if_false]
  split
  case h_12 => exact if_pos h
  all_goals cases h

/-- Digits after the first one, which must be no zero. -/
theorem read_digits {negative : Bool} {whole ds : List Char} (hne : whole ≠ [])
    (hzero : ds ≠ [] → whole ≠ ['0']) (hds : ∀ c ∈ ds, c.isDigit = true) :
    read ⟨ts, .number .whole ⟨negative, whole, [], none⟩⟩ ds =
      some ⟨ts, .number .whole ⟨negative, ds.reverse ++ whole, [], none⟩⟩ := by
  induction ds generalizing whole with
  | nil => rfl
  | cons c ds ih =>
    have hc : c.isDigit = true := hds c (by simp)
    have hstep : step ⟨ts, .number .whole ⟨negative, whole, [], none⟩⟩ (some c) =
        some ⟨ts, .number .whole ⟨negative, c :: whole, [], none⟩⟩ := by
      simp only [step, stepNumber, hc, if_true]
      rw [if_neg (hzero (List.cons_ne_nil c ds))]
    have hmore : ds ≠ [] → c :: whole ≠ ['0'] := by
      intro _ heq
      exact hne (List.cons.inj heq).2
    rw [Scanner.read_cons, hstep, Option.bind_some,
      ih (List.cons_ne_nil c whole) hmore fun d hd => hds d (by simp [hd]), List.reverse_cons,
      List.append_assoc]
    rfl

theorem behind_number {negative : Bool} {whole : List Char} :
    Behind ⟨ts, .number .whole ⟨negative, whole.reverse, [], none⟩⟩
      (.number ⟨negative, whole, [], none⟩ :: ts) where
  step c hc := by
    simp only [endsNumber, Bool.and_eq_true, Bool.not_eq_true', bne_iff_ne] at hc
    obtain ⟨⟨⟨hdigit, hpoint⟩, he⟩, hE⟩ := hc
    simp [Scanner.step, stepNumber, hdigit, hpoint, he, hE, endNumber]
  finish := by simp [Scanner.finish, endNumber]

theorem read_int (n : Int) : ∃ s, read ⟨ts, .between⟩ (Number.text (.int n)) = some s ∧
    s.Behind (.number (Number.literal (.int n)) :: ts) := by
  obtain ⟨d, ds, hdigits, hd, hds, hzero⟩ := toDigits_eq_cons n.natAbs
  have hrest : ∀ negative, read ⟨ts, .number .whole ⟨negative, [d], [], none⟩⟩ ds =
      some ⟨ts, .number .whole ⟨negative, (d :: ds).reverse, [], none⟩⟩ := by
    intro negative
    rw [read_digits (List.cons_ne_nil d []) (fun h heq => h (hzero (List.cons.inj heq).1)) hds,
      List.reverse_cons]
  refine ⟨⟨ts, .number .whole ⟨decide (n < 0), (d :: ds).reverse, [], none⟩⟩, ?_, ?_⟩
  · simp only [Number.text, hdigits]
    by_cases hn : n < 0
    · have hsign : step ⟨ts, .number .sign ⟨true, [], [], none⟩⟩ (some d) =
          some ⟨ts, .number .whole ⟨true, [d], [], none⟩⟩ := by
        simp only [step, stepNumber, hd, if_true]
      rw [if_pos hn, decide_eq_true hn]
      change read ⟨ts, .number .sign ⟨true, [], [], none⟩⟩ (d :: ds) = _
      rw [Scanner.read_cons, hsign, Option.bind_some, hrest]
    · rw [if_neg hn, decide_eq_false hn, List.nil_append, read_between_cons, begin_digit hd,
        Option.bind_some, hrest]
  · rw [Number.literal, hdigits]
    exact behind_number

/-! ## Texts and tokens -/

/-- Wherever a token may begin, the text reads as the tokens `l`. -/
def Reads (cs : List Char) (l : List Token) : Prop :=
  ∀ ts, ∃ s, read ⟨ts, .between⟩ cs = some s ∧ s.Behind (l.reverse ++ ts)

namespace Reads
variable {cs cs' : List Char} {l l' : List Token} {c : Char}

theorem nil : Reads [] [] :=
  fun ts => ⟨⟨ts, .between⟩, rfl, behind_between⟩

/-- A text in front, after which the rest begins with a character that ends a number. -/
theorem append (h : Reads cs l) (hc : endsNumber c = true) (h' : Reads (c :: cs') l') :
    Reads (cs ++ c :: cs') (l ++ l') := by
  intro ts
  obtain ⟨s, hs, hb⟩ := h ts
  obtain ⟨s', hs', hb'⟩ := h' (l.reverse ++ ts)
  refine ⟨s', ?_, ?_⟩
  · rw [read_append, hs, Option.bind_some, hb.read_cons hc, hs']
  · rwa [List.reverse_append, List.append_assoc]

/-- A mark in front. -/
theorem cons_mark {t : Token} (hm : ∀ ts, begin ts c = some ⟨t :: ts, .between⟩)
    (h : Reads cs l) : Reads (c :: cs) (t :: l) := by
  intro ts
  obtain ⟨s, hs, hb⟩ := h (t :: ts)
  refine ⟨s, ?_, ?_⟩
  · rw [read_between_cons, hm, Option.bind_some, hs]
  · rwa [List.reverse_cons, List.append_assoc]

theorem cons_space (hc : isSpace c = true) (h : Reads cs l) : Reads (c :: cs) l := by
  intro ts
  obtain ⟨s, hs, hb⟩ := h ts
  have hspace : begin ts c = some ⟨ts, .between⟩ := by
    unfold begin
    exact if_pos hc
  refine ⟨s, ?_, hb⟩
  rw [read_between_cons, hspace, Option.bind_some, hs]

theorem quote_append (k : String) (h : Reads cs l) :
    Reads (quote k ++ cs) (.string (some k) :: l) := by
  intro ts
  obtain ⟨s, hs, hb⟩ := h (.string (some k) :: ts)
  refine ⟨s, ?_, ?_⟩
  · rw [read_append, read_quote, Option.bind_some, hs]
  · rwa [List.reverse_cons, List.append_assoc]

theorem scan_eq (h : Reads cs l) : scan (cs.map some) = some l := by
  obtain ⟨s, hs, hb⟩ := h []
  have hf : s.finish = some l := by rw [hb.finish, List.append_nil, List.reverse_reverse]
  change (read ⟨[], .between⟩ cs).bind finish = some l
  rw [hs, Option.bind_some, hf]

theorem closeArray : Reads [']'] [.closeArray] :=
  nil.cons_mark fun _ => rfl

theorem closeObject : Reads ['}'] [.closeObject] :=
  nil.cons_mark fun _ => rfl

theorem int (n : Int) : Reads (Number.text (.int n)) [.number (Number.literal (.int n))] :=
  fun _ => read_int n

theorem null : Reads "null".toList [.null] :=
  fun ts => ⟨⟨.null :: ts, .between⟩, rfl, behind_between⟩

theorem bool (b : Bool) : Reads (if b then "true".toList else "false".toList) [.bool b] := by
  cases b
  · exact fun ts => ⟨⟨.bool false :: ts, .between⟩, rfl, behind_between⟩
  · exact fun ts => ⟨⟨.bool true :: ts, .between⟩, rfl, behind_between⟩

theorem string (s : String) : Reads (quote s) [.string (some s)] := by
  have h := quote_append s nil
  rwa [List.append_nil] at h

/-! ## The compact form -/

theorem compactItems {items : List Json} (h : ∀ x ∈ items, Reads x.compactChars x.tokens) :
    Reads (Json.compactItems items) (itemTokens items) := by
  induction items with
  | nil => exact closeArray
  | cons x rest ih =>
    have hx := h x (by simp)
    have hrest := ih fun y hy => h y (by simp [hy])
    cases rest with
    | nil => exact hx.append rfl closeArray
    | cons y rest => exact hx.append rfl (hrest.cons_mark fun _ => rfl)

theorem compactMembers {members : List (String × Json)}
    (h : ∀ m ∈ members, Reads m.2.compactChars m.2.tokens) :
    Reads (Json.compactMembers members) (memberTokens members) := by
  induction members with
  | nil => exact closeObject
  | cons m rest ih =>
    obtain ⟨k, x⟩ := m
    have hx := h (k, x) (by simp)
    have hrest := ih fun m hm => h m (by simp [hm])
    cases rest with
    | nil =>
      have hm := quote_append k ((hx.append rfl closeObject).cons_mark (c := ':') fun _ => rfl)
      simpa [Json.compactMembers, memberTokens] using hm
    | cons m rest =>
      have hvalue := hx.append rfl (hrest.cons_mark (c := ',') fun _ => rfl)
      have hm := quote_append k (hvalue.cons_mark (c := ':') fun _ => rfl)
      simpa [Json.compactMembers, memberTokens] using hm

theorem compact {depth : Nat} {v : Json} (h : Readable depth v) :
    Reads v.compactChars v.tokens := by
  induction h with
  | null => exact null
  | bool b =>
    cases b with
    | false => exact bool false
    | true => exact bool true
  | int => exact int _
  | string s => exact string s
  | array _ ih => exact (compactItems ih).cons_mark fun _ => rfl
  | object _ _ ih => exact (compactMembers ih).cons_mark fun _ => rfl

/-! ## The pretty form -/

theorem newline_append (depth : Nat) (h : Reads cs l) : Reads (newline depth ++ cs) l := by
  refine cons_space rfl ?_
  induction 2 * depth with
  | zero => exact h
  | succ n ih => exact ih.cons_space rfl

/-- A text, and the rest on a new line. -/
theorem append_newline (depth : Nat) (h : Reads cs l) (h' : Reads cs' l') :
    Reads (cs ++ (newline depth ++ cs')) (l ++ l') :=
  h.append rfl (h'.newline_append depth)

theorem prettyItems (depth : Nat) {items : List Json}
    (h : ∀ x ∈ items, ∀ depth, Reads (x.prettyChars depth) x.tokens) :
    Reads (Json.prettyItems depth items) (itemTokens items) := by
  induction items with
  | nil => exact closeArray.newline_append depth
  | cons x rest ih =>
    have hx := h x (by simp) (depth + 1)
    have hrest := ih fun y hy => h y (by simp [hy])
    cases rest with
    | nil =>
      have hi := (hx.append_newline depth closeArray).newline_append (depth + 1)
      simpa [Json.prettyItems, itemTokens] using hi
    | cons y rest =>
      have hvalue := hx.append rfl (hrest.cons_mark (c := ',') fun _ => rfl)
      have hi := hvalue.newline_append (depth + 1)
      simpa [Json.prettyItems, itemTokens] using hi

theorem prettyMembers (depth : Nat) {members : List (String × Json)}
    (h : ∀ m ∈ members, ∀ depth, Reads (m.2.prettyChars depth) m.2.tokens) :
    Reads (Json.prettyMembers depth members) (memberTokens members) := by
  induction members with
  | nil => exact closeObject.newline_append depth
  | cons m rest ih =>
    obtain ⟨k, x⟩ := m
    have hx := h (k, x) (by simp) (depth + 1)
    have hrest := ih fun m hm => h m (by simp [hm])
    cases rest with
    | nil =>
      have hvalue := (hx.append_newline depth closeObject).cons_space (c := ' ') rfl
      have hm := (quote_append k (hvalue.cons_mark (c := ':') fun _ => rfl)).newline_append
        (depth + 1)
      simpa [Json.prettyMembers, memberTokens] using hm
    | cons m rest =>
      have hvalue := (hx.append rfl (hrest.cons_mark (c := ',') fun _ => rfl)).cons_space
        (c := ' ') rfl
      have hm := (quote_append k (hvalue.cons_mark (c := ':') fun _ => rfl)).newline_append
        (depth + 1)
      simpa [Json.prettyMembers, memberTokens] using hm

theorem pretty {depth : Nat} {v : Json} (h : Readable depth v) (margin : Nat) :
    Reads (v.prettyChars margin) v.tokens := by
  induction h generalizing margin with
  | null => exact null
  | bool b =>
    cases b with
    | false => exact bool false
    | true => exact bool true
  | int => exact int _
  | string s => exact string s
  | @array _ items _ ih =>
    cases items with
    | nil => exact closeArray.cons_mark fun _ => rfl
    | cons x rest => exact (prettyItems margin ih).cons_mark fun _ => rfl
  | @object _ members _ _ ih =>
    cases members with
    | nil => exact closeObject.cons_mark fun _ => rfl
    | cons m rest => exact (prettyMembers margin ih).cons_mark fun _ => rfl

end Reads
end Token.Scanner
end Scratchpad.Json
