import Scratchpad.Command
import Scratchpad.Proofs.Text

/-!
# How lines are read

A grammar says how commands are spelled. A line is read as the command that it spells; a line that
spells none is text and kept as it is.
-/

namespace Scratchpad.Command

open Text (isBlank Trims Tight)

/-- The words of a command that heeds nothing behind its word. -/
def words : Command → List String
  | .clear => ["clear"]
  | .submit => ["submit", "eval"]
  | .show => ["show"]
  | .quit => ["quit", "q"]
  | .append _ => []
  | .select _ => []

/-- What may follow a word: nothing, or a blank character and then anything. -/
def EndsWord (rest : List Char) : Prop :=
  rest = [] ∨ ∃ b more, rest = b :: more ∧ isBlank b = true

/-- How commands are spelled: a colon, a word, and what may follow it; or a colon, `select`, a blank
character, and a name that blank characters may surround. -/
inductive Spells : List Char → Command → Prop
  | word {c : Command} {word : String} {rest : List Char} :
    word ∈ c.words → EndsWord rest → Spells (':' :: (word.toList ++ rest)) c
  | select {b : Char} {rest name : List Char} :
    isBlank b = true → Trims rest name → name ≠ [] →
      Spells (":select".toList ++ b :: rest) (.select (String.ofList name))

variable {line word : String} {cs rest arg name : List Char} {c : Command}

theorem ofWord?_eq_some_iff : ofWord? word arg = some c ↔
    word ∈ c.words ∨ (word = "select" ∧ arg ≠ [] ∧ c = .select (String.ofList arg)) := by
  unfold ofWord?
  split
  case h_4 =>
    cases arg with
    | nil => cases c <;> simp [words]
    | cons a arg => cases c <;> simp [words, eq_comm]
  all_goals cases c <;> simp_all [words]

/-- No word that a command begins with has a blank character. -/
theorem not_isBlank_of_word (h : (∃ c, word ∈ words c) ∨ word = "select") :
    ∀ d ∈ word.toList, isBlank d = false := by
  have hall : word.toList.all (!isBlank ·) = true := by
    rcases h with ⟨c, h⟩ | rfl
    · cases c with
      | append line => cases h
      | clear => obtain rfl := List.mem_singleton.mp h; decide
      | submit =>
        simp only [words, List.mem_cons, List.not_mem_nil, or_false] at h
        obtain rfl | rfl := h <;> decide
      | select name => cases h
      | «show» => obtain rfl := List.mem_singleton.mp h; decide
      | quit =>
        simp only [words, List.mem_cons, List.not_mem_nil, or_false] at h
        obtain rfl | rfl := h <;> decide
    · decide
  intro d hd
  simpa using List.all_eq_true.mp hall d hd

/-- The command that stands behind a colon. -/
def ofRest? (rest : List Char) : Option Command :=
  ofWord? (String.ofList (rest.takeWhile (!isBlank ·)))
    (Text.trim ((rest.dropWhile (!isBlank ·)).drop 1))

theorem endsWord_iff : EndsWord rest ↔ ∀ b ∈ rest.head?, isBlank b = true := by
  cases rest <;> simp [EndsWord]

theorem ofRest?_append {w : List Char} (hw : ∀ d ∈ w, isBlank d = false) (hr : EndsWord rest) :
    ofRest? (w ++ rest) = ofWord? (String.ofList w) (Text.trim (rest.drop 1)) := by
  rw [endsWord_iff] at hr
  obtain ⟨ht, hd⟩ := Text.span_append (p := (!isBlank ·)) (fun d hd => by rw [hw d hd]; rfl)
    fun b hb => by rw [hr b hb]; rfl
  rw [ofRest?, ht, hd]

/-- Every text is a word without blank characters and what may follow it. -/
theorem exists_word (cs : List Char) : ∃ w rest, cs = w ++ rest ∧ (∀ d ∈ w, isBlank d = false) ∧
    EndsWord rest := by
  obtain ⟨w, rest, hcs, hw, hr⟩ := Text.exists_span (!isBlank ·) cs
  simp only [Bool.not_eq_true', Bool.not_eq_false'] at hw hr
  exact ⟨w, rest, hcs, hw, endsWord_iff.mpr hr⟩

theorem spells_iff : Spells cs c ↔ ∃ rest, cs = ':' :: rest ∧ ofRest? rest = some c := by
  constructor
  · rintro (⟨hw, hr⟩ | @⟨b, rest, name, hb, hname, hne⟩)
    · refine ⟨_, rfl, ?_⟩
      rw [ofRest?_append (not_isBlank_of_word (.inl ⟨_, hw⟩)) hr, String.ofList_toList,
        ofWord?_eq_some_iff]
      exact .inl hw
    · have hselect : ∀ d ∈ "select".toList, isBlank d = false := not_isBlank_of_word (.inr rfl)
      refine ⟨_, rfl, (ofRest?_append hselect (.inr ⟨b, rest, rfl, hb⟩)).trans ?_⟩
      rw [ofWord?_eq_some_iff, List.drop_one, List.tail_cons, Text.trim_eq_iff.mpr hname]
      exact .inr ⟨rfl, hne, rfl⟩
  · rintro ⟨cs, rfl, h⟩
    obtain ⟨w, rest, rfl, hw, hr⟩ := exists_word cs
    rw [ofRest?_append hw hr, ofWord?_eq_some_iff] at h
    rcases h with hword | ⟨hword, hne, rfl⟩
    · have h := Spells.word hword hr
      rwa [String.toList_ofList] at h
    · obtain rfl | ⟨b, more, rfl, hb⟩ := hr
      · exact absurd rfl hne
      · have hselect : w = "select".toList := by rw [← hword, String.toList_ofList]
        rw [hselect]
        exact .select hb (Text.trim_eq_iff.mp rfl) hne

theorem parse_of_colon (h : line.toList = ':' :: rest) :
    parse line = (ofRest? rest).getD (.append line) := by
  simp only [parse, h, ofRest?]

theorem parse_of_not_colon (h : line.toList.head? ≠ some ':') : parse line = .append line := by
  unfold parse
  split
  · rename_i rest hl
    rw [hl] at h
    exact absurd rfl h
  · rfl

theorem parse_of_spells (h : Spells line.toList c) : parse line = c := by
  obtain ⟨rest, hl, hw⟩ := spells_iff.mp h
  rw [parse_of_colon hl, hw, Option.getD_some]

theorem parse_of_not_spells (h : ∀ c, ¬ Spells line.toList c) : parse line = .append line := by
  by_cases hc : line.toList.head? = some ':'
  · obtain ⟨rest, hl⟩ := List.head?_eq_some_iff.mp hc
    rw [parse_of_colon hl]
    cases hw : ofRest? rest with
    | none => rfl
    | some c => exact absurd (spells_iff.mpr ⟨rest, hl, hw⟩) (h c)
  · exact parse_of_not_colon hc

/-- A line is read as the command that it spells, and is kept as it is if it spells none. So a name
without blank ends is selected as it stands, and a line without a colon in front is text. -/
theorem parse_spelled :
    (∀ (line : String) (c : Command), parse line = c ↔
      Spells line.toList c ∨ (c = .append line ∧ ∀ c', ¬ Spells line.toList c')) ∧
    (∀ name : String, Tight name.toList → name ≠ "" → parse (":select " ++ name) = .select name) ∧
    ∀ line : String, line.toList.head? ≠ some ':' → parse line = .append line := by
  refine ⟨fun line c => ⟨?_, ?_⟩, fun name htight hne => ?_, fun line => parse_of_not_colon⟩
  · rintro rfl
    by_cases hs : ∃ c, Spells line.toList c
    · obtain ⟨c, hc⟩ := hs
      rw [parse_of_spells hc]
      exact .inl hc
    · rw [not_exists] at hs
      exact .inr ⟨parse_of_not_spells hs, hs⟩
  · rintro (hc | ⟨rfl, hn⟩)
    · exact parse_of_spells hc
    · exact parse_of_not_spells hn
  · apply parse_of_spells
    have htrims : Trims name.toList name.toList :=
      ⟨⟨[], [], by simp, fun _ h => absurd h List.not_mem_nil, fun _ h => absurd h List.not_mem_nil⟩,
        htight⟩
    have hnil : name.toList ≠ [] := fun h => hne (String.toList_eq_nil_iff.mp h)
    have h := Spells.select (b := ' ') (by decide) htrims hnil
    rw [String.ofList_toList] at h
    rw [String.toList_append]
    exact h

/-- Near misses are text. -/
example : [": clear", ":clearx", ":select \u2003", ":SELECT a", " :quit"].map parse =
    [.append ": clear", .append ":clearx", .append ":select \u2003", .append ":SELECT a",
      .append " :quit"] := by decide

end Scratchpad.Command
