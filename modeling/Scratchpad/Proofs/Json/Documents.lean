import Mathlib.Data.List.Basic
import Scratchpad.Json.Document

/-!
# The tokens of a document

Every document has its tokens, and the parser accepts these and no others: from the tokens that it
has taken, its state can be told, and it takes the tokens of any document wherever a value must
follow. So a text that holds a document holds nothing else.
-/

namespace Scratchpad.Json.Document

mutual

/-- The tokens that a document stands for. -/
def tokens : Document → List Token
  | .null => [.null]
  | .bool b => [.bool b]
  | .number l => [.number l]
  | .string s => [.string s]
  | .array items => .openArray :: itemTokens items
  | .object members => .openObject :: memberTokens members

def itemTokens : List Document → List Token
  | [] => [.closeArray]
  | [d] => tokens d ++ [.closeArray]
  | d :: rest => tokens d ++ .comma :: itemTokens rest

def memberTokens : Members → List Token
  | [] => [.closeObject]
  | [(name, d)] => .string name :: .colon :: tokens d ++ [.closeObject]
  | (name, d) :: rest => .string name :: .colon :: tokens d ++ .comma :: memberTokens rest

end

/-- The tokens of some items, last one first, with a comma behind each. -/
def itemsBefore (done : List Document) : List Token :=
  done.reverse.flatMap fun d => d.tokens ++ [.comma]

def membersBefore (done : Members) : List Token :=
  done.reverse.flatMap fun m => .string m.1 :: .colon :: m.2.tokens ++ [.comma]

theorem itemsBefore_cons (d : Document) (done : List Document) :
    itemsBefore (d :: done) = itemsBefore done ++ d.tokens ++ [.comma] := by
  simp [itemsBefore]

theorem membersBefore_cons (name : Option String) (d : Document) (done : Members) :
    membersBefore ((name, d) :: done) =
      membersBefore done ++ .string name :: .colon :: d.tokens ++ [.comma] := by
  simp [membersBefore]

theorem itemTokens_concat (items : List Document) (d : Document) : itemTokens (items ++ [d]) =
    (items.flatMap fun e => e.tokens ++ [.comma]) ++ d.tokens ++ [.closeArray] := by
  induction items with
  | nil => rfl
  | cons e rest ih =>
    have hcons : itemTokens (e :: (rest ++ [d])) =
        e.tokens ++ .comma :: itemTokens (rest ++ [d]) := by
      cases rest <;> rfl
    rw [List.cons_append, hcons, ih]
    simp

theorem memberTokens_concat (members : Members) (name : Option String) (d : Document) :
    memberTokens (members ++ [(name, d)]) =
      (members.flatMap fun m => .string m.1 :: .colon :: m.2.tokens ++ [.comma]) ++
        .string name :: .colon :: d.tokens ++ [.closeObject] := by
  induction members with
  | nil => rfl
  | cons m rest ih =>
    obtain ⟨k, e⟩ := m
    have hcons : memberTokens ((k, e) :: (rest ++ [(name, d)])) =
        .string k :: .colon :: e.tokens ++ .comma :: memberTokens (rest ++ [(name, d)]) := by
      cases rest <;> rfl
    rw [List.cons_append, hcons, ih]
    simp

theorem itemTokens_reverse (d : Document) (done : List Document) :
    itemTokens (d :: done).reverse = itemsBefore done ++ d.tokens ++ [.closeArray] := by
  rw [List.reverse_cons, itemTokens_concat, itemsBefore]

theorem memberTokens_reverse (name : Option String) (d : Document) (done : Members) :
    memberTokens ((name, d) :: done).reverse =
      membersBefore done ++ .string name :: .colon :: d.tokens ++ [.closeObject] := by
  rw [List.reverse_cons, memberTokens_concat, membersBefore]

/-! ## What a parser has taken -/

namespace Parser

def framesTaken : List Frame → List Token
  | [] => []
  | .items done :: stack => framesTaken stack ++ .openArray :: itemsBefore done
  | .member done name :: stack =>
    framesTaken stack ++ .openObject :: membersBefore done ++ [.string name, .colon]

/-- The tokens that lead to a state. -/
def taken : Parser → List Token
  | .value stack => framesTaken stack
  | .item stack => framesTaken stack ++ [.openArray]
  | .key stack done _ => framesTaken stack ++ .openObject :: membersBefore done
  | .colon stack done name =>
    framesTaken stack ++ .openObject :: membersBefore done ++ [.string name]
  | .after stack d => framesTaken stack ++ d.tokens

/-- The first key of an object comes before all members. -/
def Sound : Parser → Prop
  | .key _ done first => first = true → done = []
  | _ => True

theorem taken_value? {stack : List Frame} {t : Token} {p : Parser} (h : value? stack t = some p) :
    p.taken = framesTaken stack ++ [t] ∧ p.Sound := by
  cases t with
  | openObject => cases h; exact ⟨by simp [taken, membersBefore], fun _ => rfl⟩
  | openArray => cases h; exact ⟨rfl, trivial⟩
  | null => cases h; exact ⟨rfl, trivial⟩
  | bool b => cases h; exact ⟨rfl, trivial⟩
  | number l => cases h; exact ⟨rfl, trivial⟩
  | string s => cases h; exact ⟨rfl, trivial⟩
  | _ => cases h

theorem taken_step {p p' : Parser} {t : Token} (hp : p.Sound) (h : step p t = some p') :
    p'.taken = p.taken ++ [t] ∧ p'.Sound := by
  cases p with
  | value stack => exact taken_value? h
  | item stack =>
    by_cases ht : t = .closeArray
    · subst ht
      cases h
      exact ⟨by simp [taken, tokens, itemTokens], trivial⟩
    · have hv : value? (.items [] :: stack) t = some p' := by
        cases t <;> first | exact h | exact absurd rfl ht
      obtain ⟨htaken, hsound⟩ := taken_value? hv
      refine ⟨?_, hsound⟩
      rw [htaken]
      simp [framesTaken, taken, itemsBefore]
  | key stack done first =>
    cases t with
    | closeObject =>
      cases first with
      | true =>
        have hdone : done = [] := hp rfl
        cases h
        exact ⟨by simp [taken, hdone, membersBefore, tokens, memberTokens], trivial⟩
      | false => cases h
    | string name => cases h; exact ⟨by simp [taken], trivial⟩
    | _ => cases h
  | colon stack done name =>
    cases t with
    | colon => cases h; exact ⟨by simp [taken, framesTaken], trivial⟩
    | _ => cases h
  | after stack d =>
    cases stack with
    | nil => cases h
    | cons f stack =>
      cases f with
      | items done =>
        cases t with
        | comma => cases h; exact ⟨by simp [taken, framesTaken, itemsBefore_cons], trivial⟩
        | closeArray =>
          cases h
          refine ⟨?_, trivial⟩
          rw [taken, tokens, itemTokens_reverse]
          simp [taken, framesTaken]
        | _ => cases h
      | member done name =>
        cases t with
        | comma =>
          cases h
          exact ⟨by simp [taken, framesTaken, membersBefore_cons], Bool.noConfusion⟩
        | closeObject =>
          cases h
          refine ⟨?_, trivial⟩
          rw [taken, tokens, memberTokens_reverse]
          simp [taken, framesTaken]
        | _ => cases h

theorem taken_foldlM {p p' : Parser} {ts : List Token} (hp : p.Sound)
    (h : ts.foldlM step p = some p') : p'.taken = p.taken ++ ts := by
  induction ts generalizing p with
  | nil =>
    cases h
    exact (List.append_nil _).symm
  | cons t rest ih =>
    rw [List.foldlM_cons] at h
    obtain ⟨q, hq, hrest⟩ := Option.bind_eq_some_iff.mp h
    obtain ⟨htaken, hsound⟩ := taken_step hp hq
    rw [ih hsound hrest, htaken, List.append_assoc]
    rfl

/-! ## What a parser takes -/

/-- Wherever a value must follow, the tokens parse as the document `d`. -/
def Parses (l : List Token) (d : Document) : Prop :=
  ∀ stack more, (l ++ more).foldlM step (.value stack) = more.foldlM step (.after stack d)

theorem foldlM_step_cons {p p' : Parser} {t : Token} (h : step p t = some p') (l : List Token) :
    (t :: l).foldlM step p = l.foldlM step p' := by
  rw [List.foldlM_cons, h]
  rfl

/-- The first item of an array is parsed as any other one. -/
theorem foldlM_item (d : Document) (rest : List Document) (stack : List Frame)
    (more : List Token) : (itemTokens (d :: rest) ++ more).foldlM step (.item stack) =
      (itemTokens (d :: rest) ++ more).foldlM step (.value (.items [] :: stack)) := by
  cases rest <;> cases d <;> rfl

theorem parse_items {d : Document} {rest : List Document} (done : List Document)
    (stack : List Frame) (more : List Token) (h : ∀ e ∈ d :: rest, Parses e.tokens e) :
    (itemTokens (d :: rest) ++ more).foldlM step (.value (.items done :: stack)) =
      more.foldlM step (.after stack (.array (done.reverse ++ d :: rest))) := by
  induction rest generalizing d done with
  | nil =>
    rw [itemTokens, List.append_assoc, h d (by simp), List.singleton_append,
      foldlM_step_cons rfl, List.reverse_cons]
  | cons e rest ih =>
    have htokens : itemTokens (d :: e :: rest) = d.tokens ++ .comma :: itemTokens (e :: rest) := rfl
    rw [htokens, List.append_assoc, h d (by simp), List.cons_append, foldlM_step_cons rfl,
      ih (d :: done) fun z hz => h z (by simp [hz]), List.reverse_cons, List.append_assoc]
    rfl

theorem parse_members {m : Option String × Document} {rest : Members} (done : Members)
    (first : Bool) (stack : List Frame) (more : List Token)
    (h : ∀ m' ∈ m :: rest, Parses m'.2.tokens m'.2) :
    (memberTokens (m :: rest) ++ more).foldlM step (.key stack done first) =
      more.foldlM step (.after stack (.object (done.reverse ++ m :: rest))) := by
  obtain ⟨k, d⟩ := m
  have hd := h (k, d) (by simp)
  induction rest generalizing k d done first with
  | nil =>
    have htokens : memberTokens [(k, d)] =
        .string k :: .colon :: d.tokens ++ [.closeObject] :=
      rfl
    rw [htokens, List.append_assoc, List.cons_append, foldlM_step_cons rfl, List.cons_append,
      foldlM_step_cons rfl, hd, List.singleton_append, foldlM_step_cons rfl, List.reverse_cons]
  | cons m rest ih =>
    obtain ⟨k', d'⟩ := m
    have htokens : memberTokens ((k, d) :: (k', d') :: rest) =
        .string k :: .colon :: d.tokens ++ .comma :: memberTokens ((k', d') :: rest) := rfl
    rw [htokens, List.append_assoc, List.cons_append, foldlM_step_cons rfl, List.cons_append,
      foldlM_step_cons rfl, hd, List.cons_append, foldlM_step_cons rfl,
      ih _ _ k' d' (fun m hm => h m (by simp [hm])) (h (k', d') (by simp)), List.reverse_cons,
      List.append_assoc]
    rfl

theorem parses_tokens : (d : Document) → Parses d.tokens d
  | .null => fun _ _ => rfl
  | .bool _ => fun _ _ => rfl
  | .number _ => fun _ _ => rfl
  | .string _ => fun _ _ => rfl
  | .array items => by
    have ih : ∀ d ∈ items, Parses d.tokens d := fun d _ => parses_tokens d
    intro stack more
    change (.openArray :: (itemTokens items ++ more)).foldlM step (.value stack) = _
    rw [foldlM_step_cons rfl]
    cases items with
    | nil => rfl
    | cons d rest => exact (foldlM_item d rest stack more).trans (parse_items [] stack more ih)
  | .object members => by
    have ih : ∀ m ∈ members, Parses m.2.tokens m.2 := by
      rintro ⟨k, d⟩ hm
      have hlt : sizeOf d < sizeOf members :=
        Nat.lt_of_le_of_lt (by simp) (List.sizeOf_lt_of_mem hm)
      exact parses_tokens d
    intro stack more
    change (.openObject :: (memberTokens members ++ more)).foldlM step (.value stack) = _
    rw [foldlM_step_cons rfl]
    cases members with
    | nil => rfl
    | cons m rest => exact parse_members [] true stack more ih

end Parser

/-- The parser accepts the tokens of a document and no others. -/
theorem ofTokens?_eq_some_iff {ts : List Token} {d : Document} :
    ofTokens? ts = some d ↔ ts = d.tokens := by
  refine ⟨fun h => ?_, ?_⟩
  · obtain ⟨p, hp, hd⟩ := Option.bind_eq_some_iff.mp h
    have htaken := Parser.taken_foldlM (p := .value []) trivial hp
    cases p with
    | after stack e =>
      cases stack with
      | nil =>
        cases hd
        exact htaken.symm
      | cons f stack => cases hd
    | _ => cases hd
  · rintro rfl
    have hp := Parser.parses_tokens d [] []
    rw [List.append_nil] at hp
    rw [ofTokens?, hp]
    rfl

/-- A text is one document if its tokens are those of the document, all of them. -/
theorem ofBytes?_eq_some_iff {bytes : Bytes} {d : Document} :
    ofBytes? bytes = some d ↔ Token.scan (Text.Utf8.scan bytes) = some d.tokens := by
  constructor
  · intro h
    obtain ⟨ts, hts, hd⟩ := Option.bind_eq_some_iff.mp h
    rw [hts, ofTokens?_eq_some_iff.mp hd]
  · intro h
    exact Option.bind_eq_some_iff.mpr ⟨_, h, ofTokens?_eq_some_iff.mpr rfl⟩

end Scratchpad.Json.Document

