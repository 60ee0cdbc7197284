import Scratchpad.Proofs.Text
import Scratchpad.Proofs.Toml.Strings
import Scratchpad.Toml.Table

/-!
# Lines of a written document

A line that gives a bare key a string or a natural number is read as that statement, and lines one
after the other are read as their statements.
-/

namespace Scratchpad.Toml

/-! ## Tokens -/

namespace Token.Scanner
variable {ts : List Token}

theorem begin_of_atom {c : Char} (h : endsAtom c = false) : begin ts c = ⟨ts, .atom [c]⟩ := by
  simp only [endsAtom, Bool.or_eq_false_iff, beq_eq_false_iff_ne] at h
  obtain ⟨⟨⟨⟨⟨⟨hm, hb⟩, hn⟩, hr⟩, hh⟩, hd⟩, hs⟩ := h
  simp only [begin, hm, hb, hn, hr, hh, hd, hs, Bool.false_eq_true, if_false]

theorem read_inAtom {cs : List Char} (h : ∀ c ∈ cs, endsAtom c = false) (acc : List Char) :
    read ⟨ts, .atom acc⟩ cs = some ⟨ts, .atom (cs.reverse ++ acc)⟩ := by
  induction cs generalizing acc with
  | nil => rfl
  | cons c cs ih =>
    have hstep : step ⟨ts, .atom acc⟩ c = some ⟨ts, .atom (c :: acc)⟩ := by
      simp only [step, h c List.mem_cons_self, Bool.false_eq_true, if_false]
    rw [read_cons, hstep, Option.bind_some, ih fun d hd => h d (List.mem_cons_of_mem _ hd),
      List.reverse_cons, List.append_assoc]
    rfl

/-- An atom, and a character that ends it. -/
theorem read_atom {cs : List Char} (hne : cs ≠ []) (h : ∀ c ∈ cs, endsAtom c = false) {c : Char}
    (hc : endsAtom c = true) (rest : List Char) :
    read ⟨ts, .between⟩ (cs ++ c :: rest) = read ⟨.atom cs :: ts, .between⟩ (c :: rest) := by
  cases cs with
  | nil => exact absurd rfl hne
  | cons d cs =>
    have hend : step ⟨ts, .atom (cs.reverse ++ [d])⟩ c =
        step ⟨.atom (d :: cs) :: ts, .between⟩ c := by
      simp only [step, hc, if_true, List.reverse_append, List.reverse_reverse]
      rfl
    rw [List.cons_append, read_cons]
    change (some (begin ts d)).bind _ = _
    rw [begin_of_atom (h d List.mem_cons_self), Option.bind_some, read_append,
      read_inAtom fun e he => h e (List.mem_cons_of_mem _ he), Option.bind_some, read_cons, hend,
      ← read_cons]

end Token.Scanner

/-! ## Numbers -/

namespace Scalar

theorem ungroup_of_all {isDigit : Char → Bool} {cs : List Char} (hne : cs ≠ [])
    (h : ∀ c ∈ cs, isDigit c = true) (after : Bool) : ungroup isDigit after cs = some cs := by
  induction cs generalizing after with
  | nil => exact absurd rfl hne
  | cons c cs ih =>
    have hcs : ungroup isDigit true cs = some cs := by
      cases cs with
      | nil => rfl
      | cons d cs =>
        exact ih (List.cons_ne_nil d cs) (fun e he => h e (List.mem_cons_of_mem _ he)) _
    rw [ungroup, if_pos (h c List.mem_cons_self), hcs]
    rfl

theorem natural?_toDigits (n : Nat) : natural? (Nat.toDigits 10 n) = some n := by
  obtain ⟨d, ds, hdigits, hd, hds, hzero⟩ := toDigits_eq_cons n
  have hwhole : whole? (d :: ds) = some (d :: ds) := by
    have hall : ∀ c ∈ d :: ds, c.isDigit = true := by
      intro c hc
      rcases List.mem_cons.mp hc with rfl | hc
      · exact hd
      · exact hds c hc
    rw [whole?, digits?, ungroup_of_all (List.cons_ne_nil d ds) hall, Option.bind_eq_bind,
      Option.bind_some]
    split
    next heq =>
      obtain ⟨rfl, rfl⟩ := List.cons.inj heq
      cases hzero rfl
    next => rfl
  have hvalue : natural? (d :: ds) = (whole? (d :: ds)).map (Nat.ofDigitChars 10 · 0) := by
    unfold natural?
    split
    case h_4 => cases whole? (d :: ds) <;> rfl
    all_goals
      next heq =>
      obtain ⟨rfl, rfl⟩ := List.cons.inj heq
      cases hzero rfl
  rw [hdigits, hvalue, hwhole, ← hdigits, Option.map_some, Nat.ofDigitChars_ten_toDigits]

theorem integer?_of_natural? {cs : List Char} {n : Nat} (hs : signed cs = (false, cs))
    (hn : natural? cs = some n) (h : n < UInt64.size) : integer? cs = some (n : Int) := by
  have hlow : -((1 <<< 127 : Nat) : Int) ≤ n :=
    Int.le_trans (Int.neg_nonpos_of_nonneg (Int.natCast_nonneg _)) (Int.natCast_nonneg n)
  have hhigh : (n : Int) < (1 <<< 128 : Nat) :=
    Int.ofNat_lt.mpr (Nat.lt_of_lt_of_le h (by decide))
  rw [integer?, hs]
  dsimp only
  rw [if_pos rfl, hn]
  refine Option.bind_eq_some_iff.mpr ⟨(n : Int), rfl, ?_⟩
  exact if_pos ⟨hlow, hhigh⟩

/-- A number is read back from its digits. -/
theorem ofText?_toDigits {n : Nat} (h : n < UInt64.size) :
    ofText? (Nat.toDigits 10 n) = some (.integer n) := by
  have hnat := natural?_toDigits n
  obtain ⟨d, ds, hdigits, hd, -, -⟩ := toDigits_eq_cons n
  rw [hdigits] at hnat ⊢
  have hsign : signed (d :: ds) = (false, d :: ds) := by
    unfold signed
    split
    case h_3 => rfl
    all_goals
      next heq =>
      obtain ⟨rfl, rfl⟩ := List.cons.inj heq
      cases hd
  have hword (c : Char) (cs : List Char) (hc : c.isDigit = false) : d :: ds ≠ c :: cs := by
    intro heq
    obtain ⟨rfl, _⟩ := List.cons.inj heq
    rw [hc] at hd
    cases hd
  have htrue : d :: ds ≠ "true".toList := hword 't' _ rfl
  have hfalse : d :: ds ≠ "false".toList := hword 'f' _ rfl
  rw [ofText?, if_neg htrue, if_neg hfalse, integer?_of_natural? hsign hnat h]

end Scalar

/-! ## Values -/

open Token.Scanner (read)
open Statement (Parser)

/-- The text of a value, which a blank goes before and the end of the line follows, is read as a
scalar. -/
def Written (text : List Char) (s : Scalar) : Prop :=
  ∃ t, (∀ ts, read ⟨ts, .blank [' ']⟩ (text ++ ['\n']) =
      some ⟨.newline :: t :: .blank [' '] :: ts, .between⟩) ∧
    ∀ done target, [t, .newline].foldlM Parser.step ⟨done, .value target []⟩ =
      some ⟨.assign target (.scalar s) :: done, .line⟩

theorem read_blank {ts : List Token} {c : Char} (h : Token.Scanner.isBlank c = false)
    (cs : List Char) : read ⟨ts, .blank [' ']⟩ (c :: cs) =
      read ⟨.blank [' '] :: ts, .between⟩ (c :: cs) := by
  rw [Token.Scanner.read_cons, Token.Scanner.read_cons]
  simp only [Token.Scanner.step, h, Bool.false_eq_true, if_false]
  rfl

theorem writeString_eq_cons (s : String) :
    ∃ q cs, writeString s = q :: cs ∧ Token.Scanner.isBlank q = false := by
  unfold writeString
  cases Form.choose s.toList <;> exact ⟨_, _, rfl, rfl⟩

theorem written_string (s : String) : Written (writeString s) (.string s) := by
  obtain ⟨lines, hread⟩ := Token.Scanner.read_writeString s
  obtain ⟨q, cs, hq, hblank⟩ := writeString_eq_cons s
  refine ⟨.text s lines, fun ts => ?_, fun done target => rfl⟩
  rw [← hread (.blank [' '] :: ts), hq]
  exact read_blank hblank _

/-- The characters of a bare key. -/
def isBareChar (c : Char) : Bool :=
  c.isAlphanum || c == '_' || c == '-'

theorem not_endsAtom {c : Char} (h : isBareChar c = true) : Token.Scanner.endsAtom c = false := by
  simp only [Token.Scanner.endsAtom, Token.Scanner.isMark, Token.Scanner.isBlank,
    Bool.or_eq_false_iff, beq_eq_false_iff_ne]
  and_intros
  all_goals
    rintro rfl
    cases h

theorem isBareChar_of_isDigit {c : Char} (h : c.isDigit = true) : isBareChar c = true := by
  simp [isBareChar, Char.isAlphanum, h]

theorem written_number {n : Nat} (h : n < UInt64.size) : Written (Nat.toDigits 10 n) (.integer n) := by
  have hbare : ∀ c ∈ Nat.toDigits 10 n, Token.Scanner.endsAtom c = false := fun c hc =>
    not_endsAtom (isBareChar_of_isDigit (Nat.isDigit_of_mem_toDigits (by decide) (by decide) hc))
  refine ⟨.atom (Nat.toDigits 10 n), fun ts => ?_, fun done target => ?_⟩
  · obtain ⟨d, ds, hdigits, hd, -, -⟩ := toDigits_eq_cons n
    have hblank : Token.Scanner.isBlank d = false := by
      simp only [Token.Scanner.isBlank, Bool.or_eq_false_iff, beq_eq_false_iff_ne]
      and_intros <;> rintro rfl <;> cases hd
    have hread := @Token.Scanner.read_atom (.blank [' '] :: ts) _ Nat.toDigits_ne_nil hbare
      '\n' rfl []
    rw [hdigits] at hread ⊢
    exact (read_blank hblank _).trans hread
  · have hscalar : Parser.scalar? (Nat.toDigits 10 n) = some (.scalar (.integer n)) := by
      rw [Parser.scalar?, Scalar.ofText?_toDigits h]
      rfl
    have hstep : Parser.step ⟨done, .scalar target [] (Nat.toDigits 10 n)⟩ .newline =
        some ⟨.assign target (.scalar (.integer n)) :: done, .line⟩ := by
      simp only [Parser.step, Parser.stepState, hscalar]
      rfl
    change (Parser.step ⟨done, .scalar target [] (Nat.toDigits 10 n)⟩ .newline).bind _ = _
    rw [hstep]
    rfl

/-! ## Documents -/

/-- A text that is read as these statements. -/
def Reads (cs : List Char) (l : List Statement) : Prop :=
  ∃ tokens : List Token, (∀ ts, read ⟨ts, .between⟩ cs = some ⟨tokens.reverse ++ ts, .between⟩) ∧
    ∀ done, tokens.foldlM Parser.step ⟨done, .line⟩ = some ⟨l.reverse ++ done, .line⟩

namespace Reads
variable {cs cs' : List Char} {l l' : List Statement}

theorem append (h : Reads cs l) (h' : Reads cs' l') : Reads (cs ++ cs') (l ++ l') := by
  obtain ⟨tokens, hread, hparse⟩ := h
  obtain ⟨tokens', hread', hparse'⟩ := h'
  refine ⟨tokens ++ tokens', fun ts => ?_, fun done => ?_⟩
  · rw [Token.Scanner.read_append, hread, Option.bind_some, hread', List.reverse_append,
      List.append_assoc]
  · rw [List.foldlM_append, hparse]
    change tokens'.foldlM Parser.step ⟨l.reverse ++ done, .line⟩ = _
    rw [hparse', List.reverse_append, List.append_assoc]

theorem nil : Reads [] [] :=
  ⟨[], fun _ => rfl, fun _ => rfl⟩

theorem flatMap {α : Type} {text : α → List Char} {statement : α → Statement}
    (h : ∀ a, Reads (text a) [statement a]) (l : List α) :
    Reads (l.flatMap text) (l.map statement) := by
  induction l with
  | nil => exact .nil
  | cons a l ih =>
    rw [List.flatMap_cons]
    exact (h a).append ih

theorem newline : Reads ['\n'] [] :=
  ⟨[.newline], fun _ => rfl, fun _ => rfl⟩

/-- A line that gives a key a value. -/
theorem line {key : String} {text : List Char} {s : Scalar}
    (hkey : Parser.isBareKey key.toList = true) (h : Written text s) :
    Reads (key.toList ++ " = ".toList ++ text ++ ['\n']) [.assign [key] (.scalar s)] := by
  obtain ⟨t, hread, hparse⟩ := h
  have hbare := hkey
  rw [Parser.isBareKey, Bool.and_eq_true, Bool.not_eq_true', List.isEmpty_eq_false_iff,
    List.all_eq_true] at hbare
  refine ⟨[.atom key.toList, .blank [' '], .mark '=', .blank [' '], t, .newline],
    fun ts => ?_, fun done => ?_⟩
  · have hatom := @Token.Scanner.read_atom ts _ hbare.1
      (fun c hc => not_endsAtom (hbare.2 c hc)) ' ' rfl ('=' :: ' ' :: (text ++ ['\n']))
    simp only [List.append_assoc]
    exact hatom.trans (hread (.mark '=' :: .blank [' '] :: .atom key.toList :: ts))
  · have hstep : Parser.step ⟨done, .line⟩ (.atom key.toList) =
        some ⟨done, .afterKey .line [key]⟩ := by
      simp only [Parser.step, Parser.stepState, Parser.stepKey, Parser.keyPart?, hkey, if_true,
        String.ofList_toList]
      rfl
    rw [List.foldlM_cons, hstep]
    exact hparse done [key]

end Reads

end Scratchpad.Toml
